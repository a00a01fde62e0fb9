/-
  Quoted text
  ===========
  **A text between double quotes, with every character told apart by sight.**

  The quote, the backslash, tab, line feed, carriage return and the null
  character have escapes of their own; another unprintable character is
  its code point in hexadecimal between braces.
-/
import SchemaCatalog.Text.Unprintable

namespace SchemaCatalog.Text

/-- A number in lower-case hexadecimal without leading zeros. -/
def hexadecimal (n : Nat) : String := String.ofList (Nat.toDigits 16 n)

def quoteChar (c : Char) : String :=
  if c = '"' then "\\\""
  else if c = '\\' then "\\\\"
  else if c = '\t' then "\\t"
  else if c = '\n' then "\\n"
  else if c = '\r' then "\\r"
  else if c.toNat = 0 then "\\0"
  else if isUnprintable c then "\\u\x7b" ++ hexadecimal c.toNat ++ "\x7d"
  else String.singleton c

def quote (s : String) : String :=
  "\"" ++ String.join (s.toList.map quoteChar) ++ "\""

/-- The quoted texts between brackets. -/
def quoteList (l : List String) : String := "[" ++ ", ".intercalate (l.map quote) ++ "]"

end SchemaCatalog.Text
