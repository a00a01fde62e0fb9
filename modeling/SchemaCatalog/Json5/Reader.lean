/-
  Reading JSON5 files
  ===================
  **The data of a file in the relaxed form of JSON.**

  Keys may be names without quotes, strings may have single quotes, numbers
  may be hexadecimal or lack digits on one side of their point, a comma may
  end a list, and comments may stand wherever blanks may.
-/
import SchemaCatalog.Config.Datum
import SchemaCatalog.Text.Category

namespace SchemaCatalog.Json5

/-- What was read, with the text behind it. -/
abbrev Parsed (α : Type) := α × List Char

/-! ### Blanks -/

def isLineEnd (c : Char) : Bool := c ∈ ['\n', '\r', '\u2028', '\u2029']

def isBlank (c : Char) : Bool :=
  isLineEnd c || c ∈ [' ', '\t', '\x0b', '\x0c', '\u00a0', '\ufeff'] || Category.ofChar c = .zs

/-- The text behind the end of a comment. -/
def behindComment? : List Char → Option (List Char)
  | '*' :: '/' :: rest => some rest
  | _ :: rest => behindComment? rest
  | [] => none

/-- Skips blanks and comments; `fuel` bounds the length of the text. -/
def skipBlanks : Nat → List Char → List Char
  | 0, l => l
  | fuel + 1, l =>
    match l with
    | '/' :: '/' :: rest => skipBlanks fuel (rest.dropWhile fun c => !isLineEnd c)
    | '/' :: '*' :: rest =>
      match behindComment? rest with
      | some rest => skipBlanks fuel rest
      | none => l
    | c :: rest => if isBlank c then skipBlanks fuel rest else l
    | [] => []

def skip (l : List Char) : List Char := skipBlanks (l.length + 1) l

/-! ### Names and strings -/

/-- The code that exactly `count` hexadecimal digits give. -/
def code? (count : Nat) (l : List Char) : Option (Parsed Nat) := do
  let digits ← (l.take count).mapM Toml.hexDigit?
  if digits.length = count then return (Toml.ofDigits 16 digits, l.drop count) else none

/-- The character of a code behind `\u`; two codes may give one character. -/
def codedChar? (l : List Char) : Option (Parsed Char) := do
  let (n, rest) ← code? 4 l
  if n < 0xd800 ∨ 0xdfff < n then return (Char.ofNat n, rest)
  else
    match rest with
    | '\\' :: 'u' :: rest =>
      let (low, rest) ← code? 4 rest
      if n < 0xdc00 ∧ 0xdc00 ≤ low ∧ low ≤ 0xdfff then
        return (Char.ofNat (0x10000 + 0x400 * (n - 0xd800) + (low - 0xdc00)), rest)
      else none
    | _ => none

def isNameStart (c : Char) : Bool :=
  c = '$' || c = '_' || Category.ofChar c ∈ [.lu, .ll, .lt, .lm, .lo, .nl]

def isNameChar (c : Char) : Bool :=
  isNameStart c || Category.ofChar c ∈ [.mn, .mc, .nd, .pc] || c = '\u200c' || c = '\u200d'

/-- The rest of a name; `isFirst` says whether it is all of it. -/
def nameRest? (isFirst : Bool) : Nat → List Char → Option (Parsed (List Char))
  | 0, _ => none
  | fuel + 1, l =>
    match l with
    | '\\' :: 'u' :: rest => do
      let (c, rest) ← codedChar? rest
      let (more, rest) ← nameRest? false fuel rest
      return (c :: more, rest)
    | c :: rest =>
      if isNameStart c ∨ (¬ isFirst ∧ isNameChar c) then do
        let (more, rest) ← nameRest? false fuel rest
        return (c :: more, rest)
      else if isFirst then none else some ([], l)
    | [] => if isFirst then none else some ([], [])

/-- The characters that letters behind a backslash stand for. -/
def escapes : List (Char × Char) := [
  ('b', Char.ofNat 8), ('f', Char.ofNat 12), ('n', '\n'), ('r', '\r'), ('t', '\t'),
  ('v', Char.ofNat 11)]

/-- A string behind its opening quote; `fuel` bounds its length. -/
def stringRest? (quote : Char) : Nat → List Char → Option (Parsed (List Char))
  | 0, _ => none
  | fuel + 1, l =>
    let continued (c : Char) (rest : List Char) : Option (Parsed (List Char)) :=
      (stringRest? quote fuel rest).map fun (text, rest) => (c :: text, rest)
    match l with
    | [] => none
    | '\\' :: '\r' :: '\n' :: rest => stringRest? quote fuel rest
    | '\\' :: '0' :: rest =>
      if (rest.head?.map Char.isDigit).getD false then none else continued (Char.ofNat 0) rest
    | '\\' :: 'x' :: rest => do
      let (n, rest) ← code? 2 rest
      continued (Char.ofNat n) rest
    | '\\' :: 'u' :: rest => do
      let (c, rest) ← codedChar? rest
      continued c rest
    | '\\' :: c :: rest =>
      if isLineEnd c then stringRest? quote fuel rest
      else if c.isDigit then none
      else continued ((escapes.lookup c).getD c) rest
    | c :: rest =>
      if c = quote then some ([], rest)
      else if c = '\n' ∨ c = '\r' ∨ c = '\\' then none
      else continued c rest

def string? (l : List Char) : Option (Parsed String) :=
  match l with
  | c :: rest =>
    if c = '"' ∨ c = '\'' then
      (stringRest? c (rest.length + 1) rest).map fun (text, rest) => (String.ofList text, rest)
    else none
  | [] => none

/-- The key of a member. -/
def key? (l : List Char) : Option (Parsed String) :=
  (string? l).or <|
    (nameRest? true (l.length + 1) l).map fun (name, rest) => (String.ofList name, rest)

/-! ### Numbers -/

/-- Whether digits with at most one point form a number: a zero in front stands alone. -/
def isMantissa (l : List Char) : Bool :=
  let whole := l.takeWhile (· ≠ '.')
  let fraction := (l.dropWhile (· ≠ '.')).drop 1
  (whole ++ fraction).all Char.isDigit && whole ++ fraction ≠ [] &&
    (whole.length ≤ 1 || whole.head? ≠ some '0')

def isExponent (l : List Char) : Bool :=
  match l with
  | [] => true
  | _ :: rest =>
    let digits := (Toml.splitSign rest).2
    digits ≠ [] && digits.all Char.isDigit

/-- The number that a word spells. -/
def number? (word : List Char) : Option Datum := do
  let (negative, l) := Toml.splitSign word
  let isMark (c : Char) : Bool := c = 'e' || c = 'E'
  match l with
  | '0' :: 'x' :: digits | '0' :: 'X' :: digits =>
    -- a sign is no part of a hexadecimal number
    if l ≠ word ∨ digits = [] then none
    else
      let n := Toml.ofDigits 16 (← digits.mapM Toml.hexDigit?)
      if n < Nat.pow 2 32 then return .integer n else none
  | l =>
    if l = "Infinity".toList then return .float (.infinite negative)
    else if l = "NaN".toList then return .float .nan
    else if ¬ (isMantissa (l.takeWhile fun c => !isMark c) ∧
        isExponent (l.dropWhile fun c => !isMark c)) then none
    else if l.all Char.isDigit then
      let n : Int := Toml.ofDigits 10 (← l.mapM Toml.decimalDigit?)
      return .integer (← Toml.inRange? (if negative then -n else n))
    else return .float (← Floating.ofText? (String.ofList word))

/-! ### Values -/

/-- A value other than a string or a container. -/
def word? (l : List Char) : Option (Parsed Datum) :=
  let isWordChar (c : Char) : Bool := c.isAlphanum || c ∈ ['+', '-', '.', '_', '$']
  let word := l.takeWhile isWordChar
  let rest := l.dropWhile isWordChar
  if word = "null".toList then some (.blank, rest)
  else if word = "true".toList then some (.boolean true, rest)
  else if word = "false".toList then some (.boolean false, rest)
  else (number? word).map (·, rest)

mutual

/-- A value in front of a text; `fuel` bounds the length of the text. -/
def value? : Nat → List Char → Option (Parsed Datum)
  | 0, _ => none
  | fuel + 1, l =>
    match l with
    | '[' :: rest => do
      let (values, rest) ← values? fuel (skip rest)
      return (.list values, rest)
    | '\x7b' :: rest => do
      let (members, rest) ← members? fuel (skip rest)
      return (.ofMembers members, rest)
    | '"' :: _ | '\'' :: _ => (string? l).map fun (s, rest) => (.text s, rest)
    | l => word? l

/-- The rest of a list up to its end. -/
def values? : Nat → List Char → Option (Parsed (List Datum))
  | 0, _ => none
  | fuel + 1, l =>
    match l with
    | ']' :: rest => some ([], rest)
    | l => do
      let (v, rest) ← value? fuel l
      match skip rest with
      | ']' :: rest => return ([v], rest)
      | ',' :: rest =>
        let (more, rest) ← values? fuel (skip rest)
        return (v :: more, rest)
      | _ => none

/-- The rest of a table up to its end. -/
def members? : Nat → List Char → Option (Parsed (List (String × Datum)))
  | 0, _ => none
  | fuel + 1, l =>
    match l with
    | '\x7d' :: rest => some ([], rest)
    | l => do
      let (key, rest) ← key? l
      match skip rest with
      | ':' :: rest =>
        let (v, rest) ← value? fuel (skip rest)
        match skip rest with
        | '\x7d' :: rest => return ([(key, v)], rest)
        | ',' :: rest =>
          let (more, rest) ← members? fuel (skip rest)
          return ((key, v) :: more, rest)
        | _ => none
      | _ => none

end

/-- The data of a file, or `none` if the text is not JSON5. -/
def read? (text : String) : Option Datum := do
  let l := text.toList
  let (v, rest) ← value? (4 * l.length + 4) (skip l)
  if skip rest = [] then return v else none

end SchemaCatalog.Json5
