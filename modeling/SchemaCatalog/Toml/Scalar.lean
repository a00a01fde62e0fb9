/-
  TOML scalars
  ============
  **Strings, numbers and moments as they are spelt in TOML.**

  A string ends at its own delimiter, so its readers return what follows.
  Every other scalar is a run of letters, digits and a few signs, and is
  read as a whole from that run.  `none` stands for text that is no TOML;
  where exactly it is wrong is not told.
-/
import SchemaCatalog.Calendar
import SchemaCatalog.Toml.Basic
import SchemaCatalog.Json.Token

namespace SchemaCatalog.Toml

/-- What a reader has read, and the text behind it. -/
abbrev Parsed (α : Type) := α × List Char

/-! ### Lines -/

/-- The characters that may stand in comments and literal strings. -/
def isText (c : Char) : Bool := c = '\t' || (0x20 ≤ c.toNat && c.toNat ≠ 0x7f)

def isBlank (c : Char) : Bool := c = ' ' || c = '\t'

/-- The text behind a line break. -/
def newline? : List Char → Option (List Char)
  | '\n' :: rest => some rest
  | '\r' :: '\n' :: rest => some rest
  | _ => none

/-- The text behind blanks. -/
def skipBlanks (l : List Char) : List Char := l.dropWhile isBlank

/-- The text behind a comment, if there is one. -/
def skipComment : List Char → List Char
  | '#' :: rest => rest.dropWhile isText
  | l => l

/-- The text behind the end of a line, with a comment before it. -/
def endOfLine? (l : List Char) : Option (List Char) :=
  match skipComment (skipBlanks l) with
  | [] => some []
  | l => newline? l

/-- The text behind blanks, comments and line breaks; `fuel` bounds the number of lines. -/
def skipLines : Nat → List Char → List Char
  | 0, l => l
  | fuel + 1, l =>
    let l := skipComment (skipBlanks l)
    match newline? l with
    | some rest => skipLines fuel rest
    | none => l

/-! ### Strings -/

def hexDigit? (c : Char) : Option Nat := if c.toNat < 0x80 then hexValue? (byte c) else none

/-- The character whose code is given by the next `n` hexadecimal digits. -/
def codePoint? (n : Nat) (l : List Char) : Option (Parsed Char) := do
  let digits ← (l.take n).mapM hexDigit?
  let code := digits.foldl (fun acc d => 16 * acc + d) 0
  if digits.length = n ∧ (code < 0xd800 ∨ (0xdfff < code ∧ code ≤ 0x10ffff)) then
    return (Char.ofNat code, l.drop n)
  else none

/-- What stands behind a backslash. -/
def escape? : List Char → Option (Parsed Char)
  | 'b' :: rest => some (Char.ofNat 8, rest)
  | 't' :: rest => some ('\t', rest)
  | 'n' :: rest => some ('\n', rest)
  | 'f' :: rest => some (Char.ofNat 12, rest)
  | 'r' :: rest => some ('\r', rest)
  | '"' :: rest => some ('"', rest)
  | '\\' :: rest => some ('\\', rest)
  | 'u' :: rest => codePoint? 4 rest
  | 'U' :: rest => codePoint? 8 rest
  | _ => none

/-- Puts one more character before a string that is read. -/
def before (c : Char) : Option (Parsed (List Char)) → Option (Parsed (List Char)) :=
  Option.map fun (s, rest) => (c :: s, rest)

/-- The rest of a string between quotes.  `fuel` bounds its length. -/
def basicString? : Nat → List Char → Option (Parsed (List Char))
  | 0, _ => none
  | _ + 1, [] => none
  | _ + 1, '"' :: rest => some ([], rest)
  | fuel + 1, '\\' :: rest => do
    let (c, rest) ← escape? rest
    before c (basicString? fuel rest)
  | fuel + 1, c :: rest => if isText c then before c (basicString? fuel rest) else none

/-- The rest of a string between apostrophes. -/
def literalString? : List Char → Option (Parsed (List Char))
  | [] => none
  | '\'' :: rest => some ([], rest)
  | c :: rest => if isText c then before c (literalString? rest) else none

/-- What a run of delimiters means inside a string that three of them end: up to two more
    belong to the string. -/
def closing? (delimiter : Char) (l : List Char) : Option (Nat × List Char) :=
  let n := (l.takeWhile (· = delimiter)).length
  if n < 3 then none else some (min n 5 - 3, l.drop (min n 5))

/-- The text behind blanks and line breaks; `fuel` bounds the number of lines. -/
def skipEmptyLines : Nat → List Char → List Char
  | 0, l => l
  | fuel + 1, l =>
    let l := skipBlanks l
    match newline? l with
    | some rest => skipEmptyLines fuel rest
    | none => l

/-- The text behind a backslash that ends a line: blanks and line breaks are skipped. -/
def continued? (l : List Char) : Option (List Char) := do
  let rest ← newline? (skipBlanks l)
  return skipEmptyLines rest.length rest

/-- The rest of a string between three quotes. -/
def longBasicString? : Nat → List Char → Option (Parsed (List Char))
  | 0, _ => none
  | fuel + 1, l =>
    match closing? '"' l with
    | some (n, rest) => some (List.replicate n '"', rest)
    | none =>
      match newline? l, l with
      | some rest, _ => before '\n' (longBasicString? fuel rest)
      | none, '\\' :: rest =>
        match continued? rest with
        | some rest => longBasicString? fuel rest
        | none => do
          let (c, rest) ← escape? rest
          before c (longBasicString? fuel rest)
      | none, c :: rest => if isText c then before c (longBasicString? fuel rest) else none
      | none, [] => none

/-- The rest of a string between three apostrophes. -/
def longLiteralString? : Nat → List Char → Option (Parsed (List Char))
  | 0, _ => none
  | fuel + 1, l =>
    match closing? '\'' l with
    | some (n, rest) => some (List.replicate n '\'', rest)
    | none =>
      match newline? l, l with
      | some rest, _ => before '\n' (longLiteralString? fuel rest)
      | none, c :: rest => if isText c then before c (longLiteralString? fuel rest) else none
      | none, [] => none

/-- A string of any of the four forms; a line break behind three delimiters is left out. -/
def string? (l : List Char) : Option (Parsed String) :=
  let text : Option (Parsed (List Char)) → Option (Parsed String) :=
    Option.map fun (s, rest) => (String.ofList s, rest)
  let fuel := l.length + 1
  match l with
  | '"' :: '"' :: '"' :: rest => text (longBasicString? fuel ((newline? rest).getD rest))
  | '\'' :: '\'' :: '\'' :: rest => text (longLiteralString? fuel ((newline? rest).getD rest))
  | '"' :: rest => text (basicString? fuel rest)
  | '\'' :: rest => text (literalString? rest)
  | _ => none

/-! ### Numbers -/

def decimalDigit? (c : Char) : Option Nat := if c.isDigit then some (c.toNat - '0'.toNat) else none

/-- Digits, with single underscores between them. -/
def groupedDigits? (digit? : Char → Option Nat) (l : List Char) : Option (List Nat) := do
  let groups := l.splitOn '_'
  if groups.any List.isEmpty then none else groups.flatten.mapM digit?

def ofDigits (base : Nat) (l : List Nat) : Nat := l.foldl (fun n d => base * n + d) 0

/-- Splits off a sign: whether it is a minus. -/
def splitSign : List Char → Bool × List Char
  | '-' :: rest => (true, rest)
  | '+' :: rest => (false, rest)
  | l => (false, l)

/-- Decimal digits without a zero in front. -/
def wholeDigits? (l : List Char) : Option (List Nat) := do
  let digits ← groupedDigits? decimalDigit? l
  if 1 < digits.length ∧ digits.head? = some 0 then none else some digits

/-- A whole number if it fits a signed 64-bit word. -/
def inRange? (n : Int) : Option Int :=
  if -(Nat.pow 2 63 : Int) ≤ n ∧ n < (Nat.pow 2 63 : Int) then some n else none

def integer? (l : List Char) : Option Int :=
  let inBase (base : Nat) (rest : List Char) : Option Int := do
    let digits ← groupedDigits? hexDigit? rest
    if digits.all (· < base) then inRange? (ofDigits base digits) else none
  match l with
  | '0' :: 'x' :: rest => inBase 16 rest
  | '0' :: 'o' :: rest => inBase 8 rest
  | '0' :: 'b' :: rest => inBase 2 rest
  | l => do
    let (negative, rest) := splitSign l
    let n : Int := ofDigits 10 (← wholeDigits? rest)
    inRange? (if negative then -n else n)

/-- The exponent of a number, and zero if there is none. -/
def exponent? : List Char → Option Int
  | [] => some 0
  | _ :: rest => do
    let (negative, rest) := splitSign rest
    let n : Int := ofDigits 10 (← groupedDigits? decimalDigit? rest)
    return if negative then -n else n

/-- A number with a fraction or an exponent; one that exceeds the range upwards is none. -/
def float? (l : List Char) : Option Floating := do
  let (negative, rest) := splitSign l
  if rest = ['i', 'n', 'f'] then some (.infinite negative)
  else if rest = ['n', 'a', 'n'] then some .nan
  else
    let isMark (c : Char) : Bool := c = 'e' || c = 'E'
    let mantissa := rest.takeWhile fun c => !isMark c
    let power := rest.dropWhile fun c => !isMark c
    let whole ← wholeDigits? (mantissa.takeWhile (· ≠ '.'))
    let fraction ← match mantissa.dropWhile (· ≠ '.') with
      | [] => if power.isEmpty then none else some []
      | _ :: digits => groupedDigits? decimalDigit? digits
    let e ← exponent? power
    match Floating.ofDecimal negative (ofDigits 10 (whole ++ fraction)) (e - fraction.length) with
    | .infinite false => none
    | x => some x

end SchemaCatalog.Toml

namespace SchemaCatalog.Floating

/-- The value of a numeral outside of documents: digits may be missing on one side of the
    point, the point may be missing, and the special values have names in any case. -/
def ofText? (text : String) : Option Floating := do
  let (negative, rest) := Toml.splitSign text.toList
  let lower := rest.map Char.toLower
  if lower = "inf".toList ∨ lower = "infinity".toList then some (.infinite negative)
  else if lower = "nan".toList then some .nan
  else
    let mantissa := lower.takeWhile (· ≠ 'e')
    let power := lower.dropWhile (· ≠ 'e')
    let whole ← (mantissa.takeWhile (· ≠ '.')).mapM Toml.decimalDigit?
    let fraction ← ((mantissa.dropWhile (· ≠ '.')).drop 1).mapM Toml.decimalDigit?
    if whole.isEmpty ∧ fraction.isEmpty then none
    else
      let (down, digits) := Toml.splitSign (power.drop 1)
      if digits.isEmpty ∧ ¬ power.isEmpty then none
      else
        let e : Int := Toml.ofDigits 10 (← digits.mapM Toml.decimalDigit?)
        return .ofDecimal negative (Toml.ofDigits 10 (whole ++ fraction))
          ((if down then -e else e) - fraction.length)

end SchemaCatalog.Floating

namespace SchemaCatalog.Toml

/-! ### Moments -/

/-- The number that the next `n` digits give. -/
def twoOrMore? (n : Nat) (l : List Char) : Option (Parsed Nat) := do
  let digits ← (l.take n).mapM decimalDigit?
  if digits.length = n then return (ofDigits 10 digits, l.drop n) else none

/-- The text behind one given character. -/
def expect? (c : Char) : List Char → Option (List Char)
  | d :: rest => if c = d then some rest else none
  | [] => none

/-- A number with zeros in front, up to `width` digits. -/
def padded (width n : Nat) : String :=
  let ds := (Nat.repr n).toList
  String.ofList (List.replicate (width - ds.length) '0' ++ ds)

def date? (l : List Char) : Option (Parsed String) := do
  let (year, l) ← twoOrMore? 4 l
  let (month, l) ← twoOrMore? 2 (← expect? '-' l)
  let (day, l) ← twoOrMore? 2 (← expect? '-' l)
  if 1 ≤ month ∧ month ≤ 12 ∧ 1 ≤ day ∧ day ≤ daysInMonth year month then
    return (padded 4 year ++ "-" ++ padded 2 month ++ "-" ++ padded 2 day, l)
  else none

/-- The digits of a second's fraction, at most nine, without zeros at their end. -/
def fractionText (l : List Char) : String :=
  match (((l.take 9).reverse.dropWhile (· = '0')).reverse) with
  | [] => ""
  | digits => "." ++ String.ofList digits

def time? (l : List Char) : Option (Parsed String) := do
  let (hour, l) ← twoOrMore? 2 l
  let (minute, l) ← twoOrMore? 2 (← expect? ':' l)
  let (second, l) ← twoOrMore? 2 (← expect? ':' l)
  if 23 < hour ∨ 59 < minute ∨ 60 < second then none
  else
    let text := padded 2 hour ++ ":" ++ padded 2 minute ++ ":" ++ padded 2 second
    match l with
    | '.' :: rest =>
      let digits := rest.takeWhile Char.isDigit
      if digits.isEmpty then none
      else return (text ++ fractionText digits, rest.dropWhile Char.isDigit)
    | l => return (text, l)

/-- The distance from universal time, if there is one. -/
def offset? : List Char → Option String
  | [] => some ""
  | ['Z'] | ['z'] => some "Z"
  | sign :: rest => do
    if sign ≠ '+' ∧ sign ≠ '-' then none
    let (hour, rest) ← twoOrMore? 2 rest
    let (minute, rest) ← twoOrMore? 2 (← expect? ':' rest)
    if 23 < hour ∨ 59 < minute ∨ ¬ rest.isEmpty then none
    else
      let sign := if hour = 0 ∧ minute = 0 then "+" else String.singleton sign
      return sign ++ padded 2 hour ++ ":" ++ padded 2 minute

/-- A date, a time of day, or both with or without an offset. -/
def moment? (l : List Char) : Option String :=
  match date? l with
  | some (date, []) => some date
  | some (date, mark :: rest) => do
    if mark ≠ 'T' ∧ mark ≠ 't' ∧ mark ≠ ' ' then none
    let (time, rest) ← time? rest
    return date ++ "T" ++ time ++ (← offset? rest)
  | none =>
    match time? l with
    | some (time, []) => some time
    | _ => none

/-! ### Any scalar -/

def isWordCharacter (c : Char) : Bool :=
  c.isAlphanum || c = '+' || c = '-' || c = '_' || c = '.' || c = ':'

/-- The run of characters that a scalar other than a string takes; a date and a time may have
    a space between them. -/
def word (l : List Char) : List Char × List Char :=
  let first := l.takeWhile isWordCharacter
  let rest := l.dropWhile isWordCharacter
  match rest with
  | ' ' :: c :: more =>
    if (date? first).any (·.2.isEmpty) ∧ c.isDigit then
      (first ++ ' ' :: (c :: more).takeWhile isWordCharacter, (c :: more).dropWhile isWordCharacter)
    else (first, rest)
  | _ => (first, rest)

/-- A scalar other than a string. -/
def plainScalar? (l : List Char) : Option Value :=
  if l = "true".toList then some (.boolean true)
  else if l = "false".toList then some (.boolean false)
  else
    ((integer? l).map Value.integer).or (((float? l).map Value.float).or ((moment? l).map .moment))

def scalar? (l : List Char) : Option (Parsed Value) :=
  match l with
  | '"' :: _ | '\'' :: _ => (string? l).map fun (s, rest) => (.string s, rest)
  | l =>
    let (w, rest) := word l
    (plainScalar? w).map (·, rest)

end SchemaCatalog.Toml
