/-
  Well-formed JSON values
  =======================
  **What every JSON value has that was read from a text.**

  The type of JSON values admits objects whose members are out of order and
  binary64 numbers that are not canonical.  Neither occurs in a value that a
  reader makes; a value without them is well-formed.
-/
import SchemaCatalog.Json.Writer
import SchemaCatalog.Proofs.Json.NumberText

namespace SchemaCatalog

/-- The members of every object are in the order of their names, and every number is in
    canonical form. -/
inductive Json.WellFormed : Json → Prop where
  | null : WellFormed .null
  | bool (b : Bool) : WellFormed (.bool b)
  | num {n : Number} : n.Canonical → WellFormed (.num n)
  | str (s : String) : WellFormed (.str s)
  | arr {l : List Json} : (∀ v ∈ l, WellFormed v) → WellFormed (.arr l)
  | obj {t : Table Json} : t.Sorted → (∀ e ∈ t.entries, WellFormed e.2) → WellFormed (.obj t)

end SchemaCatalog
