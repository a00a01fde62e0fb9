/-
  Nested definitions
  ==================
  **Definitions inside definitions, to any depth.**

  The definitions of a schema are schemas or flags, and a schema among them
  has definitions of its own.  `Nests s name d` says that `d` stands under
  `name` somewhere in that tree.  The tree is finite, which is what an
  argument by `inductionOnDefinitions` rests on; its size is `rank`, which
  counts nothing but definitions, so schemas that differ elsewhere only
  have the same rank.
-/
import SchemaCatalog.Schema.Basic

namespace SchemaCatalog.Schema

/-- The definition `d` stands under `name` in `s`, at some depth. -/
inductive Nests : Schema → String → Subschema Schema → Prop where
  | direct {s : Schema} {name : String} {d : Subschema Schema} :
      (name, d) ∈ s.definitions.entries → Nests s name d
  | within {s e : Schema} {key name : String} {d : Subschema Schema} :
      (key, .schema e) ∈ s.definitions.entries → Nests e name d → Nests s name d

/-- The size of the tree of definitions. -/
noncomputable def rank (s : Schema) : Nat := sizeOf s.definitions

theorem sizeOf_of_mem_definitions {s d : Schema} {name : String}
    (h : (name, .schema d) ∈ s.definitions.entries) : sizeOf d < sizeOf s.definitions := by
  have hentry : sizeOf (name, Subschema.schema d) < sizeOf s.definitions.entries :=
    List.sizeOf_lt_of_mem h
  rw [Prod.mk.sizeOf_spec, Subschema.schema.sizeOf_spec] at hentry
  have htable : sizeOf s.definitions = 1 + sizeOf s.definitions.entries := by
    cases s.definitions
    rfl
  omega

theorem sizeOf_definitions (s : Schema) : sizeOf s.definitions < sizeOf s := by
  cases s
  rw [Schema.mk.sizeOf_spec]
  dsimp only
  omega

/-- A definition has a smaller tree of definitions than the schema it stands in. -/
theorem rank_lt_of_mem_definitions {s d : Schema} {name : String}
    (h : (name, .schema d) ∈ s.definitions.entries) : d.rank < s.rank :=
  Nat.lt_trans (sizeOf_definitions d) (sizeOf_of_mem_definitions h)

/-- **Induction on the tree of definitions.** -/
theorem inductionOnDefinitions {motive : Schema → Prop}
    (step : ∀ s, (∀ name d, (name, .schema d) ∈ s.definitions.entries → motive d) → motive s)
    (s : Schema) : motive s := by
  refine step s fun name d h => ?_
  exact inductionOnDefinitions step d
termination_by s.rank
decreasing_by exact rank_lt_of_mem_definitions h

end SchemaCatalog.Schema
