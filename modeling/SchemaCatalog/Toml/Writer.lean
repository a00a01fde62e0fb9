/-
  Written TOML
  ============
  **Settings in sections, as TOML text.**

  A document is a list of sections, each a header with its settings below
  and an empty line before every section but the first.  An array of two or more
  values takes a line for each.  A string is written in the first of four
  forms in which it stands as it is: between quotes, between apostrophes,
  between three quotes, between three apostrophes.  Where none will do it is
  escaped between quotes.
-/
import SchemaCatalog.Toml.Scalar

namespace SchemaCatalog.Toml

/-! ### Strings -/

/-- A code with four hexadecimal digits in upper case. -/
def upperHex4 (n : Nat) : String :=
  let ds := (Nat.toDigits 16 n).map Char.toUpper
  String.ofList (List.replicate (4 - ds.length) '0' ++ ds)

/-- The four forms of a string. -/
inductive StringForm where
  | basic
  | literal
  | longBasic
  | longLiteral
deriving DecidableEq, Repr

namespace StringForm

def all : List StringForm := [basic, literal, longBasic, longLiteral]

/-- Whether a string may have several lines. -/
def isLong : StringForm → Bool
  | basic | literal => false
  | longBasic | longLiteral => true

/-- Whether a backslash escapes. -/
def isEscaped : StringForm → Bool
  | basic | longBasic => true
  | literal | longLiteral => false

/-- The character that delimits. -/
def mark (form : StringForm) : Char := if form.isEscaped then '"' else '\''

def delimiter (form : StringForm) : String :=
  String.ofList (List.replicate (if form.isLong then 3 else 1) form.mark)

/-- How many marks may stand in a row inside. -/
def maxRun (form : StringForm) : Nat := if form.isLong then 2 else 0

end StringForm

/-- The length of the longest run of a character. -/
def longestRun (mark : Char) (l : List Char) : Nat :=
  (l.foldl (fun (longest, run) c =>
    if c = mark then (max longest (run + 1), run + 1) else (longest, 0)) (0, 0)).1

/-- Whether a string needs no escape in a form. -/
def StringForm.fits (form : StringForm) (l : List Char) : Bool :=
  l.all (fun c => isText c || c = '\n') &&
    (form.isLong || !l.contains '\n') &&
    !(form.isEscaped && l.contains '\\') &&
    longestRun form.mark l ≤ form.maxRun

/-- A character other than a quote, escaped where it must be. -/
def escapeChar (long : Bool) (c : Char) : String :=
  if c.toNat = 8 then "\\b"
  else if c = '\t' then "\\t"
  else if c = '\n' then if long then "\n" else "\\n"
  else if c.toNat = 12 then "\\f"
  else if c = '\r' then "\\r"
  else if c = '\\' then "\\\\"
  else if c.toNat ≤ 0x1f ∨ c.toNat = 0x7f then "\\u" ++ upperHex4 c.toNat
  else String.singleton c

/-- The pieces of an escaped string; `run` quotes have been written just before.  A quote that
    would make the run too long is escaped. -/
def escapedPieces (form : StringForm) : Nat → List Char → List String
  | _, [] => []
  | run, c :: rest =>
    if c = '"' then
      if run < form.maxRun then "\"" :: escapedPieces form (run + 1) rest
      else "\\\"" :: escapedPieces form 0 rest
    else escapeChar form.isLong c :: escapedPieces form 0 rest

/-- A string in a form, with a line break in front of one that has several lines. -/
def StringForm.write (form : StringForm) (s : String) : String :=
  let start := if form.isLong && s.toList.contains '\n' then "\n" else ""
  let inside := if form.isEscaped then String.join (escapedPieces form 0 s.toList) else s
  form.delimiter ++ start ++ inside ++ form.delimiter

def stringText (s : String) : String :=
  let l := s.toList
  let form := (StringForm.all.find? (·.fits l)).getD
    (if l.contains '\n' then .longBasic else .basic)
  form.write s

/-! ### Sections -/

/-- A setting of a section. -/
inductive Setting where
  | string (s : String)
  | integer (n : Int)
  | boolean (b : Bool)
  | strings (l : List String)

def Setting.text : Setting → String
  | string s => stringText s
  | integer n => integerText n
  | boolean b => if b then "true" else "false"
  | strings [] => "[]"
  | strings [s] => "[" ++ stringText s ++ "]"
  | strings l => "[\n" ++ String.join (l.map fun s => "    " ++ stringText s ++ ",\n") ++ "]"

/-- A section: its name and its settings. -/
abbrev Section := String × List (String × Setting)

def sectionText (s : Section) : String :=
  "[" ++ s.1 ++ "]\n" ++ String.join (s.2.map fun (key, v) => key ++ " = " ++ v.text ++ "\n")

def documentText (l : List Section) : String := "\n".intercalate (l.map sectionText)

end SchemaCatalog.Toml
