/-
  What a bundle means
  ===================
  **The order of the entities of a bundle does not count, except that of two with one
  name the later one does.**

  The registry of a bundle has under every name the last entity of that name and
  nothing else (`get?_toRegistry`).  So bundles that are rearrangements of each
  other, with the entities of each name in the same order, have the same registry
  (`toRegistry_eq_of_rearranged`), and whatever is read out of it is the same, in whichever
  order its entries are kept (`toRegistry_order_independent`).
-/
import SchemaCatalog.Bundle
import SchemaCatalog.Proofs.Registry.Listing

namespace SchemaCatalog.Bundle

/-- The entities of one name, in their order. -/
def named (b : Bundle) (name : String) : List StoredEntity := b.entities.filter (·.name = name)

/-- The same entities in another order, in which those of one name have kept theirs. -/
structure Rearranged (b b' : Bundle) : Prop where
  perm : b.entities.Perm b'.entities
  named_eq : ∀ name, b.named name = b'.named name

theorem toRegistry_eq (b : Bundle) :
    b.toRegistry = Table.ofList (b.entities.map fun e => (e.name, e.toEntity)) := by
  rw [toRegistry, Registry.ofEntities_eq, List.map_map]
  rfl

/-- **The last entity of a name counts**, and no other name is registered. -/
theorem get?_toRegistry (b : Bundle) (name : String) :
    b.toRegistry.get? name = (b.named name).getLast?.map StoredEntity.toEntity := by
  rw [toRegistry_eq, Table.get?_ofList_eq_getLast?, List.filter_map, List.getLast?_map,
    Option.map_map]
  rfl

theorem indexed_toRegistry (b : Bundle) : b.toRegistry.Indexed :=
  Registry.indexed_ofEntities _

theorem toRegistry_eq_of_rearranged {b b' : Bundle} (h : b.Rearranged b') :
    b'.toRegistry = b.toRegistry := by
  refine b'.indexed_toRegistry.sorted.ext b.indexed_toRegistry.sorted fun name => ?_
  rw [get?_toRegistry, get?_toRegistry, h.named_eq]

/-- **What a bundle means does not depend on the order of its entities**: under every name its
    registry has the last entity of that name, and however the bundle is rearranged and
    the entries of the registry are kept, what is read out is what this registry gives. -/
theorem toRegistry_order_independent (b : Bundle) :
    (∀ name, b.toRegistry.get? name = (b.named name).getLast?.map StoredEntity.toEntity) ∧
    ∀ b', b.Rearranged b' → ∀ l, l.Perm b'.toRegistry.entries → b.toRegistry.ReadsOut l := by
  refine ⟨b.get?_toRegistry, fun b' h l hl => ?_⟩
  rw [toRegistry_eq_of_rearranged h] at hl
  exact Registry.readsOut_of_perm b.indexed_toRegistry hl

/-! ## A pet that is described twice -/

def firstPet : StoredEntity where
  name := "Pet"
  schema := some (.obj ⟨[("type", .str "string")]⟩)

def secondPet : StoredEntity where
  name := "Pet"
  schema := some (.obj ⟨[("type", .str "object")]⟩)
  sample := some (.obj {})

def petOwner : StoredEntity where
  name := "Owner"
  schema := some (.obj ⟨[("$ref", .str "#/definitions/Pet")]⟩)

/-- The owner stands between the two descriptions of the pet. -/
def shelterBundle : Bundle := ⟨[firstPet, petOwner, secondPet]⟩

/-- The second description counts, wherever the owner stands. -/
theorem shelterBundle_order_independent :
    shelterBundle.Rearranged ⟨[petOwner, firstPet, secondPet]⟩ ∧
    shelterBundle.toRegistry.get? "Pet" = some secondPet.toEntity ∧
    ∃ l, l.Perm (Bundle.mk [petOwner, firstPet, secondPet]).toRegistry.entries ∧
      shelterBundle.toRegistry.ReadsOut l ∧ Registry.listedNames l = ["Owner", "Pet"] := by
  have hrearranged : shelterBundle.Rearranged ⟨[petOwner, firstPet, secondPet]⟩ := by
    refine ⟨.swap _ _ _, fun name => ?_⟩
    simp only [named, shelterBundle, firstPet, petOwner, secondPet, List.filter_cons]
    by_cases hpet : "Pet" = name
    · subst hpet
      simp
    · simp [hpet]
  obtain ⟨hlast, hsame⟩ := toRegistry_order_independent shelterBundle
  have hread := hsame _ hrearranged _ (List.reverse_perm _)
  refine ⟨hrearranged, ?_, _, List.reverse_perm _, hread, hread.names.trans (by decide)⟩
  rw [hlast]
  rfl

end SchemaCatalog.Bundle
