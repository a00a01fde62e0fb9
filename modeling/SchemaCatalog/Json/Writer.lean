/-
  Written JSON
  ============
  **The two texts of a JSON value: compact, and on indented lines.**

  What is written is an `OrderedJson`: a JSON value whose members stand in
  the order in which they are to appear.  A plain value is written with its
  members in the order of their names (`Json.ordered`); a document with a
  fixed order of keywords gives its own.  `OrderedJson.toJson` is the value
  that such a tree stands for.

  Strings are written as they are except for the quote, the backslash and
  the control characters below U+0020, so a written string never holds a
  line break.  The pretty text puts every element and member on a line of
  its own, two spaces deeper for each container; an empty container stays
  on one line.
-/
import SchemaCatalog.Json.Number

namespace SchemaCatalog

/-- A JSON value that is no container. -/
inductive Scalar where
  | null
  | bool (b : Bool)
  | num (n : Number)
  | str (s : String)
deriving DecidableEq, Repr

/-- A JSON value whose members stand in a given order. -/
inductive OrderedJson where
  | scalar (s : Scalar)
  | arr (elements : List OrderedJson)
  | obj (members : List (String × OrderedJson))

def Scalar.toJson : Scalar → Json
  | null => .null
  | bool b => .bool b
  | num n => .num n
  | str s => .str s

/-! ### Text of scalars -/

namespace Text

/-- The four hexadecimal digits of a code below `0x10000`. -/
def hex4 (n : Nat) : String :=
  let ds := Nat.toDigits 16 n
  String.ofList (List.replicate (4 - ds.length) '0' ++ ds)

def escapeChar (c : Char) : String :=
  if c = '"' then "\\\""
  else if c = '\\' then "\\\\"
  else if c.toNat = 8 then "\\b"
  else if c.toNat = 12 then "\\f"
  else if c = '\n' then "\\n"
  else if c = '\r' then "\\r"
  else if c = '\t' then "\\t"
  else if c.toNat < 0x20 then "\\u" ++ hex4 c.toNat
  else String.singleton c

/-- A text as a JSON string. -/
def jsonString (s : String) : String := "\"" ++ String.join (s.toList.map escapeChar) ++ "\""

end Text

def Scalar.text : Scalar → String
  | null => "null"
  | bool b => if b then "true" else "false"
  | num n => n.text
  | str s => Text.jsonString s

namespace OrderedJson

def bool (b : Bool) : OrderedJson := scalar (.bool b)

def str (s : String) : OrderedJson := scalar (.str s)

mutual

/-- The value that the tree stands for; of two members with one name the later counts. -/
def toJson : OrderedJson → Json
  | scalar s => s.toJson
  | arr elements => .arr (toElements elements)
  | obj members => .obj (toMembers {} members)

def toElements : List OrderedJson → List Json
  | [] => []
  | v :: rest => toJson v :: toElements rest

/-- Adds the members to `acc`, in order. -/
def toMembers (acc : Table Json) : List (String × OrderedJson) → Table Json
  | [] => acc
  | (k, v) :: rest => toMembers (acc.insert k (toJson v)) rest

end

mutual

def compact : OrderedJson → String
  | scalar s => s.text
  | arr elements => "[" ++ ",".intercalate (compactElements elements) ++ "]"
  | obj members => "\x7b" ++ ",".intercalate (compactMembers members) ++ "\x7d"

def compactElements : List OrderedJson → List String
  | [] => []
  | v :: rest => compact v :: compactElements rest

def compactMembers : List (String × OrderedJson) → List String
  | [] => []
  | (k, v) :: rest => (Text.jsonString k ++ ":" ++ compact v) :: compactMembers rest

end

/-- Puts a name before the first line. -/
def named (k : String) : List String → List String
  | [] => []
  | first :: rest => (Text.jsonString k ++ ": " ++ first) :: rest

/-- Indents the lines and puts a comma after the last. -/
def separated : List String → List String
  | [] => []
  | [last] => ["  " ++ last ++ ","]
  | first :: rest => ("  " ++ first) :: separated rest

mutual

/-- The lines of a value, without the indentation of the place where it stands. -/
def lines : OrderedJson → List String
  | scalar s => [s.text]
  | arr [] => ["[]"]
  | arr elements => "[" :: linesOfElements elements ++ ["]"]
  | obj [] => ["\x7b\x7d"]
  | obj members => "\x7b" :: linesOfMembers members ++ ["\x7d"]

/-- The indented lines of the elements, with a comma after each but the last. -/
def linesOfElements : List OrderedJson → List String
  | [] => []
  | [v] => (lines v).map ("  " ++ ·)
  | v :: rest => separated (lines v) ++ linesOfElements rest

def linesOfMembers : List (String × OrderedJson) → List String
  | [] => []
  | [(k, v)] => (named k (lines v)).map ("  " ++ ·)
  | (k, v) :: rest => separated (named k (lines v)) ++ linesOfMembers rest

end

def pretty (v : OrderedJson) : String := "\n".intercalate (lines v)

end OrderedJson

namespace Json

mutual

/-- The value with its members in the order of their names. -/
def ordered : Json → OrderedJson
  | null => .scalar .null
  | bool b => .scalar (.bool b)
  | num n => .scalar (.num n)
  | str s => .scalar (.str s)
  | arr elements => .arr (orderedElements elements)
  | obj ⟨members⟩ => .obj (orderedMembers members)

def orderedElements : List Json → List OrderedJson
  | [] => []
  | v :: rest => ordered v :: orderedElements rest

def orderedMembers : List (String × Json) → List (String × OrderedJson)
  | [] => []
  | (k, v) :: rest => (k, ordered v) :: orderedMembers rest

end

def compact (v : Json) : String := v.ordered.compact

def pretty (v : Json) : String := v.ordered.pretty

end Json

end SchemaCatalog
