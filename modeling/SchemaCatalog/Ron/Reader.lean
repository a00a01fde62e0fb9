/-
  Reading RON files
  =================
  **The data of a file in the object notation RON.**

  A structure is a list of named values in parentheses, perhaps with a name
  in front, and counts as a table; without names of values it counts as a
  list.  There are lists in brackets, maps in braces with values as keys,
  optional values, numbers in four bases, characters and strings.  Comments
  and blanks may stand anywhere, and a comma at the end of a list.
-/
import SchemaCatalog.Config.Datum
import SchemaCatalog.Text.Fault

namespace SchemaCatalog.Ron

/-! ### Blanks -/

/-- The text behind a comment, in which other comments may be; `depth` of them are open. -/
def behindComment? : Nat → List Char → Option (List Char)
  | 0, l => some l
  | depth + 1, '*' :: '/' :: rest => behindComment? depth rest
  | depth, '/' :: '*' :: rest => behindComment? (depth + 1) rest
  | depth, _ :: rest => behindComment? depth rest
  | _, [] => none

def isBlank (c : Char) : Bool :=
  c ∈ [' ', '\t', '\n', '\r', '\x0b', '\x0c', '\u0085', '\u200e', '\u200f', '\u2028', '\u2029']

/-- Skips blanks and comments; `fuel` bounds the length of the text. -/
def skipBlanks : Nat → List Char → Except TextFault (List Char)
  | 0, l => .ok l
  | fuel + 1, l =>
    match l with
    | '/' :: '/' :: rest => skipBlanks fuel (rest.dropWhile (· ≠ '\n'))
    | '/' :: '*' :: rest =>
      match behindComment? 1 rest with
      | some rest => skipBlanks fuel rest
      | none => .error ⟨"Unclosed block comment", []⟩
    | '/' :: _ => .error ⟨"Unexpected byte '/'", l⟩
    | c :: rest => if isBlank c then skipBlanks fuel rest else .ok l
    | [] => .ok []

def skip (l : List Char) : Except TextFault (List Char) := skipBlanks (l.length + 1) l

def endOfText : String := "Unexpected end of RON"

/-! ### Names -/

def isNameStart (c : Char) : Bool := c.isAlpha || c = '_'

def isNameChar (c : Char) : Bool := c.isAlphanum || c = '_'

/-- A name in front of a text. -/
def name? (l : List Char) : Option (String × List Char) :=
  match l with
  | 'r' :: '#' :: rest =>
    let isRawChar (c : Char) : Bool := isNameChar c || c = '.' || c = '+' || c = '-'
    match rest.takeWhile isRawChar with
    | [] => none
    | name => some (String.ofList name, rest.dropWhile isRawChar)
  | c :: _ =>
    if isNameStart c then
      some (String.ofList (l.takeWhile isNameChar), l.dropWhile isNameChar)
    else none
  | [] => none

/-! ### Texts -/

/-- A character that a backslash and what follows stand for, behind the backslash. -/
def escaped? (l : List Char) : Option (Char × List Char) :=
  let coded (digits rest : List Char) : Option (Char × List Char) := do
    let values ← digits.mapM Toml.hexDigit?
    let n := Toml.ofDigits 16 values
    if digits ≠ [] ∧ (n < 0xd800 ∨ 0xdfff < n) ∧ n ≤ 0x10ffff then some (Char.ofNat n, rest)
    else none
  match l with
  | '\'' :: rest => some ('\'', rest)
  | '"' :: rest => some ('"', rest)
  | '\\' :: rest => some ('\\', rest)
  | 'n' :: rest => some ('\n', rest)
  | 'r' :: rest => some ('\r', rest)
  | 't' :: rest => some ('\t', rest)
  | '0' :: rest => some (Char.ofNat 0, rest)
  | 'x' :: a :: b :: rest => coded [a, b] rest
  | 'u' :: '\x7b' :: rest =>
    let digits := rest.takeWhile (· ≠ '\x7d')
    if digits.length ≤ 6 then coded digits ((rest.dropWhile (· ≠ '\x7d')).drop 1) else none
  | _ => none

/-- A text behind its opening quote; `fuel` bounds its length. -/
def readText : Nat → List Char → Except TextFault (List Char × List Char)
  | 0, l => .error ⟨"Expected end of string", l⟩
  | fuel + 1, l =>
    match l with
    | '"' :: rest => .ok ([], rest)
    | '\\' :: rest =>
      match escaped? rest with
      | some (c, rest) => do
        let (text, rest) ← readText fuel rest
        return (c :: text, rest)
      | none => .error ⟨"Invalid escape sequence", rest⟩
    | c :: rest => do
      let (text, rest) ← readText fuel rest
      return (c :: text, rest)
    | [] => .error ⟨"Expected end of string", []⟩

/-- A text without escapes up to a quote and as many marks as are in front of it. -/
def rawText? (marks : Nat) : List Char → Option (List Char × List Char)
  | [] => none
  | c :: rest =>
    if c = '"' ∧ (rest.take marks) = List.replicate marks '#' then some ([], rest.drop marks)
    else (rawText? marks rest).map fun (text, rest) => (c :: text, rest)

/-! ### Numbers -/

def isFloatChar (c : Char) : Bool := c.isDigit || c ∈ ['e', 'E', '.', '+', '-', '_']

/-- A whole number, perhaps in another base. -/
def whole? (l : List Char) : Option Int :=
  let inBase (base : Nat) (digits : List Char) : Option Nat := do
    let values ← (digits.filter (· ≠ '_')).mapM Toml.hexDigit?
    if values ≠ [] ∧ values.all (· < base) then return Toml.ofDigits base values else none
  let (negative, digits) := Toml.splitSign l
  let n := match digits with
    | '0' :: 'x' :: rest => inBase 16 rest
    | '0' :: 'o' :: rest => inBase 8 rest
    | '0' :: 'b' :: rest => inBase 2 rest
    | digits => inBase 10 digits
  n.map fun n => if negative then -(n : Int) else n

/-- The number in front of a text. -/
def number? (l : List Char) : Option (Datum × List Char) :=
  let isNumberChar (c : Char) : Bool := c.isAlphanum || c ∈ ['.', '+', '-', '_']
  let word := l.takeWhile isNumberChar
  let rest := l.dropWhile isNumberChar
  match (whole? word).bind Toml.inRange? with
  | some n => some (.integer n, rest)
  | none =>
    if word.all isFloatChar ∨ (Toml.splitSign word).2 = "inf".toList then
      (Floating.ofText? (String.ofList (word.filter (· ≠ '_')))).map fun x => (.float x, rest)
    else none

/-! ### Values -/

/-- The text behind a comma, and whether there was one. -/
def comma (l : List Char) : Except TextFault (Bool × List Char) := do
  match ← skip l with
  | ',' :: rest => return (true, ← skip rest)
  | l => return (false, l)

/-- Whether parentheses hold values without names, behind the opening one. -/
def holdsList (l : List Char) : Bool :=
  match name? l with
  | none => true
  | some (_, rest) =>
    match skip rest with
    | .ok (':' :: _) => false
    | _ => true

mutual

/-- A value in front of a text; `fuel` bounds the length of the text. -/
def readValue : Nat → List Char → Except TextFault (Datum × List Char)
  | 0, l => .error ⟨endOfText, l⟩
  | fuel + 1, l =>
    match name? l with
    | some ("true", rest) => .ok (.boolean true, rest)
    | some ("false", rest) => .ok (.boolean false, rest)
    | some ("None", rest) => .ok (.blank, rest)
    | some ("inf", rest) => .ok (.float (.infinite false), rest)
    | some ("NaN", rest) => .ok (.float .nan, rest)
    | some ("Some", rest) => do
      match ← skip rest with
      | '(' :: rest =>
        let (v, rest) ← readValue fuel (← skip rest)
        match ← skip rest with
        | ')' :: rest => return (v, rest)
        | rest => throw ⟨"Expected closing \x60)\x60", rest⟩
      | rest => throw ⟨"Expected option", rest⟩
    | some (name, rest) => do
      match l with
      | 'r' :: '"' :: rest =>
        match rawText? 0 rest with
        | some (text, rest) => return (.text (String.ofList text), rest)
        | none => throw ⟨"Expected end of string", []⟩
      | _ =>
        match ← skip rest with
        | '(' :: rest => readParentheses fuel (← skip rest)
        | _ => if name = "" then throw ⟨endOfText, rest⟩ else return (.blank, rest)
    | none =>
      match l with
      | '(' :: ')' :: rest => .ok (.blank, rest)
      | '(' :: rest => do readParentheses fuel (← skip rest)
      | '[' :: rest => do
        let (values, rest) ← readValues ']' fuel true rest
        return (.list values, rest)
      | '\x7b' :: rest => do
        let (members, rest) ← readMembers false '\x7d' fuel true rest
        return (.ofMembers members, rest)
      | '"' :: rest => do
        let (text, rest) ← readText (rest.length + 1) rest
        return (.text (String.ofList text), rest)
      | 'r' :: '#' :: _ =>
        let marks := (l.drop 1).takeWhile (· = '#')
        match rawText? marks.length (l.drop (marks.length + 2)) with
        | some (text, rest) => .ok (.text (String.ofList text), rest)
        | none => .error ⟨"Expected end of string", []⟩
      | '\'' :: '\\' :: rest =>
        match escaped? rest with
        | some (c, '\'' :: rest) => .ok (.text (String.singleton c), rest)
        | _ => .error ⟨"Expected char", l⟩
      | '\'' :: c :: '\'' :: rest => .ok (.text (String.singleton c), rest)
      | [] => .error ⟨endOfText, []⟩
      | c :: _ =>
        match number? l with
        | some found => .ok found
        | none => .error ⟨"Unexpected byte '" ++ String.singleton c ++ "'", l⟩

/-- What parentheses hold, behind the opening one. -/
def readParentheses : Nat → List Char → Except TextFault (Datum × List Char)
  | 0, l => .error ⟨endOfText, l⟩
  | fuel + 1, l =>
    if holdsList l then do
      let (values, rest) ← readValues ')' fuel true l
      return (.list values, rest)
    else do
      let (members, rest) ← readMembers true ')' fuel true l
      return (.ofMembers members, rest)

/-- The rest of a list of values up to its end; `separated` says whether a value may follow. -/
def readValues (close : Char) : Nat → Bool → List Char → Except TextFault (List Datum × List Char)
  | 0, _, l => .error ⟨endOfText, l⟩
  | fuel + 1, separated, l => do
    match ← skip l with
    | [] => throw ⟨endOfText, []⟩
    | c :: rest =>
      if c = close then return ([], rest)
      if ¬ separated then throw ⟨"Expected comma", c :: rest⟩
      let (v, rest) ← readValue fuel (c :: rest)
      let (separated, rest) ← comma rest
      let (more, rest) ← readValues close fuel separated rest
      return (v :: more, rest)

/-- The rest of a list of members up to its end; `named` says whether the keys are names. -/
def readMembers (named : Bool) (close : Char) : Nat → Bool → List Char →
    Except TextFault (List (String × Datum) × List Char)
  | 0, _, l => .error ⟨endOfText, l⟩
  | fuel + 1, separated, l => do
    match ← skip l with
    | [] => throw ⟨endOfText, []⟩
    | c :: rest =>
      if c = close then return ([], rest)
      if ¬ separated then throw ⟨"Expected comma", c :: rest⟩
      let (key, rest) ← if named then
          match name? (c :: rest) with
          | some (name, rest) => pure (Datum.text name, rest)
          | none => throw ⟨"Expected identifier", c :: rest⟩
        else readValue fuel (c :: rest)
      match key, ← skip rest with
      | .text key, ':' :: rest =>
        let (v, rest) ← readValue fuel (← skip rest)
        let (separated, rest) ← comma rest
        let (more, rest) ← readMembers named close fuel separated rest
        return ((key, v) :: more, rest)
      | .text _, rest => throw ⟨"Expected colon", rest⟩
      | _, rest => throw ⟨"Expected string", rest⟩

end

/-- The data of a file, or what is wrong with it. -/
def read (text : String) : Except String Datum :=
  let l := text.toList
  let whole : Except TextFault Datum := do
    let (v, rest) ← readValue (4 * l.length + 4) (← skip l)
    match ← skip rest with
    | [] => return v
    | rest => throw ⟨"Non-whitespace trailing characters", rest⟩
  match whole with
  | .ok v => .ok v
  | .error f =>
    let (line, column) := f.place l
    .error (Nat.repr line ++ ":" ++ Nat.repr column ++ ": " ++ f.message)

end SchemaCatalog.Ron
