/-
  Well-kept collectors
  ====================
  **What holds of a collector after any additions, failed ones included.**

  Every entry stands under the lower-case form of its name, has a name and
  carries the checksum of its own schema (`WellKept`).  A store keeps this,
  and nothing else changes the entries, so an addition keeps it wherever it
  stops.  As the keys of a table are distinct, so are the names in lower case;
  the table that is finished by the names themselves therefore has a place
  for every entry (`WellKept.finalize_get?`, `WellKept.finalize_keys`).

  An addition never removes a name and never takes examples away, whatever the
  digests are.  That the canonical form under a name stays is known from the
  checksums, and so only if they tell the schemas at hand apart (`Retains`).
-/
import SchemaCatalog.Proofs.Collector.OrderIndependence
import SchemaCatalog.Proofs.Collector.Presence

namespace SchemaCatalog.Collector

/-! ## 1. The invariant -/

/-- The entries are in order, each under the lower-case form of its name, with a name and with the
    checksum of its own schema. -/
structure WellKept (c : Collector) : Prop where
  sorted : c.entries.Sorted
  filed : ∀ e ∈ c.entries.entries, e.1 = lowercase e.2.name
  named : ∀ e ∈ c.entries.entries, e.2.name ≠ ""
  digested : ∀ e ∈ c.entries.entries, e.2.checksum = e.2.schema.checksum

variable {c c' : Collector} {name : String} {s : Schema}

theorem wellKept_empty : WellKept {} where
  sorted := List.Pairwise.nil
  filed := nofun
  named := nofun
  digested := nofun

/-- A store puts one entry in, which is what it should be. -/
theorem WellKept.store {key : String} {entry : Entry} (h : c.WellKept)
    (hstore : c.decide name s = .store key entry) : WellKept ⟨c.entries.insert key entry⟩ := by
  obtain ⟨hname, rfl, rfl, _⟩ := decide_store hstore
  refine ⟨h.sorted.insert _ _, ?_, ?_, ?_⟩
  · intro e he
    rcases Table.mem_insertEntry he with rfl | he
    · rfl
    · exact h.filed e he
  · intro e he
    rcases Table.mem_insertEntry he with rfl | he
    · exact hname
    · exact h.named e he
  · intro e he
    rcases Table.mem_insertEntry he with rfl | he
    · rfl
    · exact h.digested e he

theorem WellKept.add (h : c.WellKept) (name : String) (s : Schema) : (c.add name s).1.WellKept :=
  add_invariant (P := WellKept) (fun _ _ _ _ _ hstore hc => hc.store hstore) s c name h

/-- **What additions lead to is well kept**, whether they succeed or fail. -/
theorem WellKept.addEach {l : List (String × Schema)} :
    ∀ {c : Collector}, c.WellKept → (c.addEach l).1.WellKept := by
  induction l with
  | nil => exact fun h => h
  | cons e rest ih =>
    intro c h
    obtain ⟨name, s⟩ := e
    rw [addEach_cons]
    exact ih (h.add name s)

/-! ## 2. What additions retain -/

/-- Every name is still there, with the same canonical form, and with examples if it had them. -/
def Retains (c c' : Collector) : Prop :=
  ∀ name old, c.get? name = some old → ∃ new, c'.get? name = some new ∧
    new.canonical = old.canonical ∧ (old.hasExamples → new.hasExamples)

/-- A run of additions only adds. -/
theorem addEach_grown {l : List (String × Schema)} :
    ∀ c : Collector, Grown c (c.addEach l).1 (allContributions l) := by
  induction l with
  | nil => exact fun c => Grown.refl c _
  | cons e rest ih =>
    intro c
    obtain ⟨name, s⟩ := e
    rw [addEach_cons]
    have hfirst : Grown c (c.add name s).1 (allContributions ((name, s) :: rest)) :=
      (add_grown s c name).mono fun p hp => List.mem_append_left _ hp
    exact hfirst.trans ((ih _).mono fun p hp => List.mem_append_right _ hp)

/-- Every entry of a run from the empty collector is a contribution. -/
theorem mem_allContributions_of_get? {l : List (String × Schema)} {key : String} {e : Entry}
    (h : (Collector.addEach {} l).1.entries.get? key = some e) :
    (e.name, e.schema) ∈ allContributions l := by
  rcases (addEach_grown {}).origin key e h with hempty | ⟨_, _, hmem⟩
  · cases hempty
  · exact hmem

/-- If checksums stand for canonical forms, a collector that has grown retains what it had. -/
theorem Grown.retains {held brought : List (String × Schema)} (h : Grown c c' brought)
    (hc : c.WellKept) (hc' : c'.WellKept)
    (hheld : ∀ key e, c.entries.get? key = some e → (e.name, e.schema) ∈ held)
    (hfaithful : Faithful (held ++ brought)) : Retains c c' := by
  intro name old hold
  obtain ⟨e, he, rfl, rfl⟩ := get?_eq_some_iff.mp hold
  obtain ⟨e', he', hupdates⟩ := h.kept _ e he
  have hold_mem : (e.name, e.schema) ∈ held ++ brought := List.mem_append_left _ (hheld _ e he)
  have hnew_mem : (e'.name, e'.schema) ∈ held ++ brought := by
    rcases h.origin _ e' he' with hsame | ⟨_, _, hmem⟩
    · exact List.mem_append_left _ (hheld _ e' hsame)
    · exact List.mem_append_right _ hmem
  -- an entry is replaced only by one of the same name and checksum
  have hnamed : e'.name = e.name ∧ e'.checksum = e.checksum ∧
      (e.schema.hasExamples → e'.schema.hasExamples) := by
    rcases hupdates with rfl | ⟨hname, hchecksum, hexamples, _⟩
    · exact ⟨rfl, rfl, id⟩
    · exact ⟨hname, hchecksum, fun _ => hexamples⟩
  obtain ⟨hname, hchecksum, hexamples⟩ := hnamed
  have hdigests : e'.schema.checksum = e.schema.checksum := by
    calc e'.schema.checksum = e'.checksum := (hc'.digested _ (Table.mem_of_get? he')).symm
      _ = e.checksum := hchecksum
      _ = e.schema.checksum := hc.digested _ (Table.mem_of_get? he)
  exact ⟨e'.schema, get?_eq_some_iff.mpr ⟨e', he', hname, rfl⟩,
    hfaithful _ hnew_mem _ hold_mem hdigests, hexamples⟩

/-! ## 3. The finished table -/

/-- What the finished table has of a schema. -/
def finished (strip : Bool) (s : Schema) : Schema :=
  if strip then { s with definitions := {} } else s

theorem finalize_eq (strip : Bool) (c : Collector) :
    c.finalize strip =
      Table.ofList (c.entries.values.map fun e => (e.name, finished strip e.schema)) :=
  rfl

namespace WellKept

variable (h : c.WellKept)
include h

/-- The keys of the entries are the lower-case forms of their names. -/
theorem keys_eq_map : c.entries.keys = c.entries.values.map fun e => lowercase e.name := by
  rw [Table.keys, Table.values, List.map_map]
  exact List.map_congr_left h.filed

/-- **No two names are the same in lower case.** -/
theorem nodup_lowercase : (c.entries.values.map fun e => lowercase e.name).Nodup := by
  rw [← h.keys_eq_map]
  exact h.sorted.nodup_keys

theorem nodup_names : (c.entries.values.map (·.name)).Nodup := by
  have hlower := h.nodup_lowercase
  rw [← Function.comp_def lowercase, ← List.map_map] at hlower
  exact hlower.of_map _

theorem get?_eq_some_iff_mem {stored : Schema} :
    c.get? name = some stored ↔ ∃ e ∈ c.entries.values, e.name = name ∧ e.schema = stored := by
  rw [get?_eq_some_iff]
  constructor
  · rintro ⟨e, he, hname, hstored⟩
    exact ⟨e, List.mem_map_of_mem (Table.mem_of_get? he), hname, hstored⟩
  · rintro ⟨e, he, rfl, hstored⟩
    obtain ⟨⟨key, e⟩, hmem, rfl⟩ := List.mem_map.mp he
    have hkey : key = lowercase e.name := h.filed _ hmem
    subst hkey
    exact ⟨e, h.sorted.get?_of_mem hmem, rfl, hstored⟩

theorem finalize_nodup (strip : Bool) :
    ((c.entries.values.map fun e => (e.name, finished strip e.schema)).map (·.1)).Nodup := by
  rw [List.map_map]
  exact h.nodup_names

/-- **The finished table answers as the collector does.** -/
theorem finalize_get? (strip : Bool) (name : String) :
    (c.finalize strip).get? name = (c.get? name).map (finished strip) := by
  rw [finalize_eq, Table.get?_ofList (h.finalize_nodup strip)]
  ext d
  rw [Table.find?_eq_some_iff (h.finalize_nodup strip), Option.map_eq_some_iff]
  constructor
  · intro hmem
    obtain ⟨e, he, heq⟩ := List.mem_map.mp hmem
    cases heq
    exact ⟨e.schema, h.get?_eq_some_iff_mem.mpr ⟨e, he, rfl, rfl⟩, rfl⟩
  · rintro ⟨stored, hstored, rfl⟩
    obtain ⟨e, he, rfl, rfl⟩ := h.get?_eq_some_iff_mem.mp hstored
    exact List.mem_map.mpr ⟨e, he, rfl⟩

/-- **The finished table has one entry for each entry of the collector.** -/
theorem finalize_keys (strip : Bool) :
    (c.finalize strip).keys.Perm (c.entries.values.map (·.name)) := by
  refine (List.perm_ext_iff_of_nodup ?_ h.nodup_names).mpr fun name => ?_
  · rw [finalize_eq]
    exact (Table.sorted_ofList _).nodup_keys
  · rw [finalize_eq, Table.mem_keys_ofList_iff, List.map_map]
    rfl

theorem finalize_size (strip : Bool) : (c.finalize strip).size = c.size := by
  have hlength := (h.finalize_keys strip).length_eq
  rw [Table.keys, Table.values, List.length_map, List.length_map, List.length_map] at hlength
  exact hlength

end WellKept

/-! ## 4. Every run -/

/-- **The collectors that additions lead to.**  After any additions, whether they succeeded or
    failed, every entry stands under the lower-case form of its name, names are not empty and
    distinct even in lower case, and every checksum is that of the schema beside it.  If the schemas
    have been read from JSON and their digests do not collide, one more addition, whether it
    succeeds or fails, retains every name with its canonical form and with its examples.  The
    finished table is in the order of the names and has one entry for each that was collected, with
    the schema that is found under its name, at most without the definitions inside. -/
theorem addEach_upkeep (l : List (String × Schema)) (c : Collector)
    (hreached : c = (Collector.addEach {} l).1) :
    c.WellKept ∧ (c.entries.values.map fun e => lowercase e.name).Nodup ∧
    (∀ name s, (∀ p ∈ l ++ [(name, s)], p.2.IsRead) →
      CollisionFree (allContributions (l ++ [(name, s)])) → Retains c (c.add name s).1) ∧
    ∀ strip, (c.finalize strip).Sorted ∧ (c.finalize strip).size = c.size ∧
      (c.finalize strip).keys.Perm (c.entries.values.map (·.name)) ∧
      ∀ name, (c.finalize strip).get? name =
        (c.get? name).map fun s => if strip then { s with definitions := {} } else s := by
  have hkept : c.WellKept := by
    rw [hreached]
    exact wellKept_empty.addEach
  refine ⟨hkept, hkept.nodup_lowercase, ?_, fun strip => ⟨Table.sorted_ofList _,
    hkept.finalize_size strip, hkept.finalize_keys strip, hkept.finalize_get? strip⟩⟩
  intro name s hread hdigest
  have hfaithful : Faithful (allContributions l ++ contributions name s) := by
    have hall := faithful_of_collisionFree hread hdigest
    rwa [allContributions, List.flatMap_append, List.flatMap_singleton] at hall
  refine (add_grown s c name).retains hkept (hkept.add name s) ?_ hfaithful
  intro key e he
  rw [hreached] at he
  exact mem_allContributions_of_get? he

/-- The addition that fails inside the schema of a pet keeps the tag that was there before, with
    its canonical form. -/
theorem tagCollector_upkeep :
    tagCollector = (Collector.addEach {} [("Tag", .ofType "string")]).1 ∧
    (∀ p ∈ [("Tag", Schema.ofType "string"), ("Pet", selfCollidingSchema)], p.2.IsRead) ∧
    CollisionFree (allContributions
      [("Tag", Schema.ofType "string"), ("Pet", selfCollidingSchema)]) ∧
    (tagCollector.add "Pet" selfCollidingSchema).2 = .error (.caseCollision "Pet" "pet") ∧
    Retains tagCollector (tagCollector.add "Pet" selfCollidingSchema).1 := by
  have hreached : tagCollector = (Collector.addEach {} [("Tag", .ofType "string")]).1 := by
    decide +kernel
  have hread : ∀ p ∈ [("Tag", Schema.ofType "string"), ("Pet", selfCollidingSchema)],
      p.2.IsRead := by
    refine List.forall_mem_cons.mpr ⟨?_, List.forall_mem_cons.mpr ⟨?_, nofun⟩⟩
    · have htag : Schema.ofBytes (Bytes.ofString (Schema.ofType "string").toJson.compact) =
          .ok (Schema.ofType "string") := by
        decide +kernel
      exact .text htag
    · have hpet : Schema.ofBytes (Bytes.ofString selfCollidingSchema.toJson.compact) =
          .ok selfCollidingSchema := by
        decide +kernel
      exact .text hpet
  have hdigest : CollisionFree (allContributions
      [("Tag", Schema.ofType "string"), ("Pet", selfCollidingSchema)]) := by
    decide +kernel
  obtain ⟨_, _, hretains, _⟩ := addEach_upkeep _ tagCollector hreached
  exact ⟨hreached, hread, hdigest, by rw [add_selfCollidingSchema],
    hretains "Pet" selfCollidingSchema hread hdigest⟩

end SchemaCatalog.Collector
