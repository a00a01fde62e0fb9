/-
  Registries by name
  ==================
  **Every entity of a registry stands under its own name.**

  A registry of a list of entities is `Indexed`: in the order of the names,
  each entity under the name that it carries.  So the schema that an entity
  reads is the one that the registry supplies under its name.
-/
import SchemaCatalog.Proofs.Resolution.Passes

namespace SchemaCatalog.Registry

/-- The entities stand in the order of their names, each under its own. -/
structure Indexed (r : Registry) : Prop where
  sorted : r.Sorted
  name_eq : ∀ entry ∈ r.entries, entry.2.name = entry.1

theorem ofEntities_eq (l : List Entity) :
    ofEntities l = Table.ofList (l.map fun e => (e.name, e)) := by
  rw [ofEntities, Table.ofList, List.foldl_map]
  rfl

theorem indexed_ofEntities (l : List Entity) : Indexed (ofEntities l) := by
  rw [ofEntities_eq]
  refine ⟨Table.sorted_ofList _, ?_⟩
  intro entry hentry
  obtain ⟨e, _, rfl⟩ := List.mem_map.mp (Table.mem_of_mem_ofList hentry)
  rfl

theorem hasSchema_of_eq_some {e : Entity} {bytes : Bytes} (h : e.schema = some bytes) :
    e.hasSchema = true := by
  rw [Entity.hasSchema, h]
  rfl

theorem readSchema_ok_iff {e : Entity} {s : Schema} :
    e.readSchema = .ok s ↔
      ∃ bytes, e.schema = some bytes ∧ Schema.ofBytesNamed e.name bytes = .ok s := by
  rw [Entity.readSchema]
  cases e.schema with
  | none =>
    constructor
    · intro h
      cases h
    · rintro ⟨_, h, _⟩
      cases h
  | some bytes =>
    constructor
    · intro h
      exact ⟨bytes, rfl, h⟩
    · rintro ⟨_, ⟨⟩, h⟩
      exact h

namespace Indexed

variable {r : Registry}

theorem name_of_get? (h : Indexed r) {name : String} {e : Entity} (hget : r.get? name = some e) :
    e.name = name :=
  h.name_eq _ (Table.mem_of_get? hget)

theorem get?_of_mem_values (h : Indexed r) {e : Entity} (he : e ∈ r.values) :
    r.get? e.name = some e := by
  obtain ⟨entry, hentry, rfl⟩ := List.mem_map.mp he
  rw [h.name_eq entry hentry]
  exact h.sorted.get?_of_mem hentry

/-- What an entity reads is what the registry supplies. -/
theorem supplies_iff (h : Indexed r) {name : String} {e : Entity} (hget : r.get? name = some e)
    {s : Schema} : r.Supplies name s ↔ e.readSchema = .ok s := by
  rw [readSchema_ok_iff, h.name_of_get? hget]
  constructor
  · rintro ⟨e', bytes, hget', hbytes, hread⟩
    rw [hget] at hget'
    cases hget'
    exact ⟨bytes, hbytes, hread⟩
  · rintro ⟨bytes, hbytes, hread⟩
    exact ⟨e, bytes, hget, hbytes, hread⟩

end Indexed

/-- An entity of this schema and nothing else. -/
def entityOf (name : String) (s : Schema) : Entity :=
  { name, schema := some (Bytes.ofString s.text) }

end SchemaCatalog.Registry
