/-
  The order of additions
  ======================
  **A collector merges exactly the consistent inputs, in every order.**

  Adding named schemas one after the other succeeds for each of them exactly if
  their contributions can be merged, and that does not depend on their order.
  Neither does what the collector then holds.

  The collector compares checksums, so all of this rests on different canonical
  forms having different checksums.  For schemas that have been read from
  JSON the text that is digested determines the schema: nothing is lost when
  the schema is turned into a value, nor when the value is written.  What
  remains is that the digest does not collide on the texts at hand, which is a
  hypothesis, `CollisionFree`.
-/
import SchemaCatalog.Proofs.Collector.Merging
import SchemaCatalog.Proofs.Json.Compact
import SchemaCatalog.Proofs.Schema.Reading
import SchemaCatalog.Proofs.Schema.Writing

namespace SchemaCatalog

/-! ## 1. Schemas from JSON -/

namespace Schema

/-- A schema that has been read from JSON: from a text, or from a value in memory. -/
inductive IsRead : Schema → Prop where
  | text {bytes : Bytes} {s : Schema} : ofBytes bytes = .ok s → IsRead s
  | value {v : Json} {s : Schema} : v.WellFormed → ofJson v = .ok s → IsRead s

theorem IsRead.wellFormed {s : Schema} (h : s.IsRead) : s.WellFormed := by
  cases h with
  | text hread => exact ofBytes_wellFormed hread
  | value hv hread => exact ofJson_wellFormed hv hread

/-- The bytes that are digested for the checksum of a schema. -/
def serialForm (s : Schema) : Bytes := Bytes.ofString s.canonical.toJson.compact

/-- **The serial form determines the canonical form.** -/
theorem canonical_eq_of_serialForm_eq {s t : Schema} (hs : s.WellFormed) (ht : t.WellFormed)
    (h : s.serialForm = t.serialForm) : s.canonical = t.canonical := by
  have htext : s.canonical.toJson.compact = t.canonical.toJson.compact :=
    Bytes.ofString_injective h
  have hvalue : s.canonical.toJson = t.canonical.toJson :=
    Json.eq_of_compact_eq hs.canonical.toJson ht.canonical.toJson htext
  exact eq_of_toJson_eq hs.canonical t.canonical ht.canonical hvalue

end Schema

namespace Collector

theorem wellFormed_of_mem_contributions {s : Schema} (h : s.WellFormed) :
    ∀ name, ∀ p ∈ contributions name s, p.2.WellFormed := by
  induction s using Schema.inductionOnDefinitions with
  | step s ih =>
    intro name p hp
    rw [contributions_eq] at hp
    rcases List.mem_cons.mp hp with rfl | hp
    · exact h
    · obtain ⟨key, d, hd, hp⟩ := mem_contributionsOf_iff.mp hp
      exact ih key d hd (h.of_mem_definitions hd) key p hp

/-- The digest tells the serial forms of these schemas apart. -/
def CollisionFree (l : List (String × Schema)) : Prop :=
  ∀ p ∈ l, ∀ q ∈ l, Sha256.digest p.2.serialForm = Sha256.digest q.2.serialForm →
    p.2.serialForm = q.2.serialForm

instance (l : List (String × Schema)) : Decidable (CollisionFree l) :=
  inferInstanceAs (Decidable (∀ p ∈ l, ∀ q ∈ l,
    Sha256.digest p.2.serialForm = Sha256.digest q.2.serialForm →
      p.2.serialForm = q.2.serialForm))

/-- Without collisions checksums are as good as canonical forms. -/
theorem faithful_of_collisionFree {l : List (String × Schema)} (hread : ∀ p ∈ l, p.2.IsRead)
    (h : CollisionFree (allContributions l)) : Faithful (allContributions l) := by
  have hwellFormed : ∀ p ∈ allContributions l, p.2.WellFormed := by
    intro p hp
    obtain ⟨e, he, hp⟩ := List.mem_flatMap.mp hp
    exact wellFormed_of_mem_contributions (hread e he).wellFormed e.1 p hp
  intro p hp q hq hchecksum
  exact Schema.canonical_eq_of_serialForm_eq (hwellFormed p hp) (hwellFormed q hq)
    (h p hp q hq hchecksum)

/-! ## 2. What a collector holds -/

variable {c : Collector} {name : String} {seen : List (String × Schema)}

/-- The collector holds exactly the names among `seen`, each once, with the canonical form of all
    that has been seen under it, and with examples exactly if some of that has examples. -/
structure Holds (c : Collector) (seen : List (String × Schema)) : Prop where
  names : ∀ name, name ∈ c.entries.values.map (·.name) ↔ ∃ s, (name, s) ∈ seen
  nodup : (c.entries.values.map (·.name)).Nodup
  found : ∀ name, (∃ stored, c.get? name = some stored) ↔ ∃ s, (name, s) ∈ seen
  form : ∀ name stored, c.get? name = some stored →
    ∀ s, (name, s) ∈ seen → stored.canonical = s.canonical
  examples : ∀ name stored, c.get? name = some stored →
    (stored.hasExamples ↔ ∃ s, (name, s) ∈ seen ∧ s.hasExamples)

theorem Holds.congr {seen' : List (String × Schema)} (h : Holds c seen)
    (hmem : ∀ p, p ∈ seen ↔ p ∈ seen') : Holds c seen' where
  names name := by simpa only [← hmem] using h.names name
  nodup := h.nodup
  found name := by simpa only [← hmem] using h.found name
  form name stored hstored s hs := h.form name stored hstored s ((hmem _).mpr hs)
  examples name stored hstored := by simpa only [← hmem] using h.examples name stored hstored

theorem get?_eq_some_iff {stored : Schema} :
    c.get? name = some stored ↔
      ∃ e, c.entries.get? (lowercase name) = some e ∧ e.name = name ∧ e.schema = stored := by
  rw [Collector.get?]
  split
  · next e he =>
    split
    · next hname => simp [hname, he]
    · next hname => simp [hname, he]
  · next hnone => simp [hnone]

namespace Represents

variable (h : Represents c seen)
include h

/-- The keys of the entries are the lower-case forms of their names. -/
theorem keys_eq : c.entries.keys = (c.entries.values.map (·.name)).map lowercase := by
  rw [Table.keys, Table.values, List.map_map, List.map_map]
  refine List.map_congr_left fun e he => ?_
  exact (h.origin e.1 e.2 (h.sorted.get?_of_mem he)).1

theorem mem_seen_of_get? {stored : Schema} (hget : c.get? name = some stored) :
    (name, stored) ∈ seen := by
  obtain ⟨e, he, rfl, rfl⟩ := get?_eq_some_iff.mp hget
  exact (h.origin _ e he).2.2

/-- **What the invariant says about the entries.** -/
theorem holds : Holds c seen where
  names name := by
    constructor
    · intro hname
      obtain ⟨e, he, rfl⟩ := List.mem_map.mp hname
      obtain ⟨⟨key, e⟩, hmem, rfl⟩ := List.mem_map.mp he
      exact ⟨e.schema, (h.origin key e (h.sorted.get?_of_mem hmem)).2.2⟩
    · rintro ⟨s, hs⟩
      obtain ⟨e, he, rfl, _⟩ := h.held _ hs
      exact List.mem_map_of_mem (List.mem_map_of_mem (Table.mem_of_get? he))
  nodup := by
    have hkeys : c.entries.keys.Nodup := h.sorted.nodup_keys
    rw [h.keys_eq] at hkeys
    exact hkeys.of_map _
  found name := by
    constructor
    · rintro ⟨stored, hget⟩
      exact ⟨stored, h.mem_seen_of_get? hget⟩
    · rintro ⟨s, hs⟩
      obtain ⟨e, he, hname, _⟩ := h.held _ hs
      exact ⟨e.schema, get?_eq_some_iff.mpr ⟨e, he, hname, rfl⟩⟩
  form name stored hget s hs := by
    obtain ⟨e, he, _, rfl⟩ := get?_eq_some_iff.mp hget
    obtain ⟨e', he', _, hcanonical, _⟩ := h.held _ hs
    rw [he] at he'
    cases he'
    exact hcanonical
  examples name stored hget := by
    constructor
    · intro hexamples
      exact ⟨stored, h.mem_seen_of_get? hget, hexamples⟩
    · rintro ⟨s, hs, hexamples⟩
      obtain ⟨e, he, _, rfl⟩ := get?_eq_some_iff.mp hget
      obtain ⟨e', he', _, _, hkept⟩ := h.held _ hs
      rw [he] at he'
      cases he'
      exact hkept hexamples

end Represents

/-! ## 3. Every order -/

instance (c : Collector) (l : List (String × Schema)) : Decidable (Succeeds c l) :=
  inferInstanceAs (Decidable (∀ outcome ∈ (c.addEach l).2, outcome = .ok ()))

theorem mem_allContributions_of_perm {l l' : List (String × Schema)} (hperm : l'.Perm l)
    (p : String × Schema) : p ∈ allContributions l' ↔ p ∈ allContributions l :=
  (hperm.flatMap_right _).mem_iff

theorem consistent_congr {l m : List (String × Schema)} (h : ∀ p, p ∈ l ↔ p ∈ m) :
    Consistent l ↔ Consistent m :=
  ⟨fun hl => hl.subset fun p => (h p).mpr, fun hm => hm.subset fun p => (h p).mp⟩

/-- A run from the empty collector succeeds exactly if its contributions can be merged, and then
    the collector holds them. -/
theorem succeeds_iff_consistent {l : List (String × Schema)}
    (hfaithful : Faithful (allContributions l)) :
    (Succeeds {} l ↔ Consistent (allContributions l)) ∧
      (Succeeds {} l → Holds (addEach {} l).1 (allContributions l)) := by
  obtain ⟨hiff, hrepresents⟩ := addEach_empty_merges hfaithful
  exact ⟨hiff, fun h => (hrepresents h).holds⟩

/-- **Order independence.**  Additions of schemas that have been read from JSON all succeed exactly
    if no name among their contributions is empty and contributions whose names differ at most in
    letter case have one name and one canonical form.  They then succeed in every order, and in
    every order the collector holds exactly these contributions. -/
theorem addEach_order_independent {l : List (String × Schema)} (hread : ∀ p ∈ l, p.2.IsRead)
    (hdigest : CollisionFree (allContributions l)) :
    (Succeeds {} l ↔ Consistent (allContributions l)) ∧
    ∀ l', l'.Perm l → (Succeeds {} l' ↔ Succeeds {} l) ∧
      (Succeeds {} l' → Holds (addEach {} l').1 (allContributions l)) := by
  have hfaithful : Faithful (allContributions l) := faithful_of_collisionFree hread hdigest
  obtain ⟨hiff, _⟩ := succeeds_iff_consistent hfaithful
  refine ⟨hiff, fun l' hperm => ?_⟩
  have hmem := mem_allContributions_of_perm hperm
  obtain ⟨hiff', hholds'⟩ :=
    succeeds_iff_consistent (hfaithful.subset fun p hp => (hmem p).mp hp)
  refine ⟨?_, fun h => (hholds' h).congr hmem⟩
  calc Succeeds {} l' ↔ Consistent (allContributions l') := hiff'
    _ ↔ Consistent (allContributions l) := consistent_congr hmem
    _ ↔ Succeeds {} l := hiff.symm

/-- A schema with a definition inside it and a flag among its definitions. -/
def petSchema : Schema :=
  { type := some (.single "object")
    definitions := ⟨[("Any", .flag true), ("Tag", .schema (.ofType "string"))]⟩ }

/-- The definition inside the schema of a pet once more, with an example. -/
def tagSchema : Schema := { Schema.ofType "string" with examples := [.str "red"] }

def petCatalog : List (String × Schema) := [("Pet", petSchema), ("Tag", tagSchema)]

/-- A pet and its tag are merged in both orders. -/
theorem petCatalog_order_independent :
    (∀ p ∈ petCatalog, p.2.IsRead) ∧ CollisionFree (allContributions petCatalog) ∧
    Succeeds {} petCatalog ∧
    (Succeeds {} petCatalog ↔ Consistent (allContributions petCatalog)) ∧
    ∀ l', l'.Perm petCatalog → (Succeeds {} l' ↔ Succeeds {} petCatalog) ∧
      (Succeeds {} l' → Holds (addEach {} l').1 (allContributions petCatalog)) := by
  have hread : ∀ p ∈ petCatalog, p.2.IsRead := by
    refine List.forall_mem_cons.mpr ⟨?_, List.forall_mem_cons.mpr ⟨?_, nofun⟩⟩
    · have hpet : Schema.ofBytes (Bytes.ofString petSchema.toJson.compact) = .ok petSchema := by
        decide +kernel
      exact .text hpet
    · have htag : Schema.ofBytes (Bytes.ofString tagSchema.toJson.compact) = .ok tagSchema := by
        decide +kernel
      exact .text htag
  have hdigest : CollisionFree (allContributions petCatalog) := by decide +kernel
  exact ⟨hread, hdigest, by decide +kernel, addEach_order_independent hread hdigest⟩

end Collector

end SchemaCatalog
