/-
  Places in a document
  ====================
  **JSON pointers.**

  A pointer is a list of segments: member names, and positions in arrays.
  In text each segment follows a slash, with `~0` for a tilde and `~1` for
  a slash.
-/
import SchemaCatalog.Json.Basic

namespace SchemaCatalog

/-- The segments from the root of a document to a place in it. -/
abbrev Pointer := List String

namespace Pointer

def escapeChar (c : Char) : String :=
  if c = '~' then "~0" else if c = '/' then "~1" else String.singleton c

def text (p : Pointer) : String :=
  String.join (p.map fun segment => "/" ++ String.join (segment.toList.map escapeChar))

/-- Replaces `~1` by a slash and `~0` by a tilde; any other tilde stays. -/
def unescape : List Char → List Char
  | '~' :: '1' :: rest => '/' :: unescape rest
  | '~' :: '0' :: rest => '~' :: unescape rest
  | c :: rest => c :: unescape rest
  | [] => []

/-- The pointer of a text, which is empty or starts with a slash. -/
def ofText? (s : String) : Option Pointer :=
  match s.toList with
  | [] => some []
  | '/' :: rest => some ((rest.splitOn '/').map fun segment => String.ofList (unescape segment))
  | _ :: _ => none

/-- The position that a segment gives: decimal digits without a leading zero. -/
def index? (segment : String) : Option Nat :=
  let l := segment.toList
  if l.isEmpty ∨ ¬ l.all Char.isDigit ∨ (l.head? = some '0' ∧ l ≠ ['0']) then none
  else some (l.foldl (fun n c => 10 * n + (c.toNat - '0'.toNat)) 0)

end Pointer

namespace Json

/-- The part of a value that a segment leads to. -/
def child? (v : Json) (segment : String) : Option Json :=
  match v with
  | obj members => members.get? segment
  | arr elements => do elements[← Pointer.index? segment]?
  | _ => none

/-- The values on the way from `v` to a place below it, the one there as the last. -/
def follow? (v : Json) : Pointer → Option (List Json)
  | [] => some [v]
  | segment :: rest => do return v :: (← follow? (← v.child? segment) rest)

end Json

end SchemaCatalog
