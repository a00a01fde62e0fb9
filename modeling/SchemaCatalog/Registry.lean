/-
  Registries
  ==========
  **The entities that can be referred to, by name.**

  A name stands for one entity, the one registered last.  A name that no
  entity carries may be a slip, so `suggest` lists the registered names it
  resembles.
-/
import SchemaCatalog.Entity
import SchemaCatalog.Text.Subsequence

namespace SchemaCatalog

/-- The registered entities, each under its own name. -/
abbrev Registry := Table Entity

namespace Registry

/-- Registers an entity, in place of an earlier one of its name. -/
def register (r : Registry) (e : Entity) : Registry := r.insert e.name e

/-- The registry of a list of entities; of two with one name the later one counts. -/
def ofEntities (l : List Entity) : Registry := l.foldl register {}

/-- Whether the first of two scored names comes first: by score, then by name. -/
def precedes (a b : Int × String) : Bool := b.1 < a.1 || (a.1 == b.1 && a.2 ≤ b.2)

/-- At most `limit` registered names that the query matches, the best first. -/
def suggest (r : Registry) (query : String) (limit : Nat) : List String :=
  let scored := r.keys.filterMap fun name => (Subsequence.score? query name).map (·, name)
  ((scored.mergeSort precedes).take limit).map (·.2)

end Registry

end SchemaCatalog
