/-
  Well-formed schemas
  ===================
  **What every schema has that was read from JSON.**

  The tables of a well-formed schema are in order, none of its other
  keywords is one with a field of its own, the values it keeps are
  well-formed, and so are the schemas in all of its places.
-/
import SchemaCatalog.Schema.Reader
import SchemaCatalog.Proofs.Json.WellFormed

namespace SchemaCatalog.Schema

/-- The subschemas of `items`. -/
def itemPlaces : Option (Items Schema) → List (Subschema Schema)
  | none => []
  | some (.each s) => [s]
  | some (.tuple l) => l

/-- The schemas and flags that a schema holds, its definitions included. -/
def places (s : Schema) : List (Subschema Schema) :=
  s.properties.values ++ itemPlaces s.items ++ s.additionalItems.toList ++ s.contains.toList ++
  s.additionalProperties.toList ++ s.allOf ++ s.anyOf ++ s.oneOf ++ s.not.toList ++
  s.definitions.values

theorem forall_mem_places_iff {s : Schema} {P : Subschema Schema → Prop} :
    (∀ p ∈ s.places, P p) ↔
      (∀ p ∈ s.properties.values, P p) ∧ (∀ p ∈ itemPlaces s.items, P p) ∧
      (∀ p ∈ s.additionalItems.toList, P p) ∧ (∀ p ∈ s.contains.toList, P p) ∧
      (∀ p ∈ s.additionalProperties.toList, P p) ∧ (∀ p ∈ s.allOf, P p) ∧
      (∀ p ∈ s.anyOf, P p) ∧ (∀ p ∈ s.oneOf, P p) ∧ (∀ p ∈ s.not.toList, P p) ∧
      ∀ p ∈ s.definitions.values, P p := by
  simp only [places, List.forall_mem_append, and_assoc]

inductive WellFormed : Schema → Prop where
  | intro {s : Schema} : s.properties.Sorted → s.definitions.Sorted → s.extra.Sorted →
      (∀ key ∈ s.extra.keys, key ∉ keywords) → (∀ e ∈ s.extra.entries, e.2.WellFormed) →
      (∀ v ∈ s.examples, v.WellFormed) → (∀ t, .schema t ∈ s.places → WellFormed t) →
      WellFormed s

namespace WellFormed

variable {s : Schema} (h : s.WellFormed)
include h

theorem properties_sorted : s.properties.Sorted := by
  cases h
  assumption

theorem definitions_sorted : s.definitions.Sorted := by
  cases h
  assumption

theorem extra_sorted : s.extra.Sorted := by
  cases h
  assumption

theorem extra_keys : ∀ key ∈ s.extra.keys, key ∉ keywords := by
  cases h
  assumption

theorem extra_values : ∀ e ∈ s.extra.entries, e.2.WellFormed := by
  cases h
  assumption

theorem examples : ∀ v ∈ s.examples, v.WellFormed := by
  cases h
  assumption

theorem places : ∀ t, .schema t ∈ s.places → t.WellFormed := by
  cases h
  assumption

/-- Removing the examples keeps a schema well-formed. -/
theorem canonical : s.canonical.WellFormed :=
  .intro h.properties_sorted h.definitions_sorted h.extra_sorted h.extra_keys h.extra_values
    (fun _ hv => absurd hv List.not_mem_nil) h.places

/-- The definitions of a well-formed schema are well-formed. -/
theorem of_mem_definitions {name : String} {d : Schema}
    (hd : (name, .schema d) ∈ s.definitions.entries) : d.WellFormed := by
  refine h.places d ?_
  have hvalue : Subschema.schema d ∈ s.definitions.values := List.mem_map.mpr ⟨_, hd, rfl⟩
  exact List.mem_append_right _ hvalue

end WellFormed

end SchemaCatalog.Schema
