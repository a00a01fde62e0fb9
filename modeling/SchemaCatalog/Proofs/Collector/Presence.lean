/-
  Names that are present
  ======================
  **What an addition that succeeded has made available.**

  The name that was added is present, and so are the names of the definitions
  directly inside it, unless the collector was left as it was: a definition
  that is known is not looked into.  Names stay present, whatever
  is added later, and each of them is a name of the finished table.

  None of this depends on what checksums tell apart.
-/
import SchemaCatalog.Proofs.Collector.Failure

namespace SchemaCatalog.Collector

/-! ## 1. What all stores preserve -/

section

variable {P : Collector → Prop}

theorem addEntries_invariant {l : List (String × Subschema Schema)}
    (each : ∀ key d, (key, .schema d) ∈ l → ∀ c : Collector, P c → P (c.add key d).1) :
    ∀ c : Collector, P c → P (c.addEntries l).1 := by
  induction l with
  | nil => exact fun _ hc => hc
  | cons e rest ih =>
    intro c hc
    have hrest := ih fun key d hmem => each key d (List.mem_cons_of_mem _ hmem)
    obtain ⟨key, b | d⟩ := e
    · exact hrest c hc
    · have hfirst := each key d List.mem_cons_self c hc
      rw [addEntries]
      rcases hadd : c.add key d with ⟨c', e | ⟨⟩⟩
      · rw [hadd] at hfirst
        exact hfirst
      · rw [hadd] at hfirst
        exact hrest c' hfirst

/-- What every store preserves, an addition preserves. -/
theorem add_invariant (hstore : ∀ c name s key entry, Collector.decide c name s = .store key entry →
      P c → P ⟨c.entries.insert key entry⟩) (s : Schema) :
    ∀ (c : Collector) (name : String), P c → P (c.add name s).1 := by
  induction s using Schema.inductionOnDefinitions with
  | step s ih =>
    intro c name hc
    rw [add_eq]
    cases hdecide : c.decide name s with
    | refuse e => exact hc
    | known => exact hc
    | store key entry =>
      exact addEntries_invariant (fun key d hd c => ih key d hd c key) _
        (hstore c name s key entry hdecide hc)

end

theorem sorted_add {c : Collector} (name : String) (s : Schema) (h : c.entries.Sorted) :
    (c.add name s).1.entries.Sorted :=
  add_invariant (P := fun c => c.entries.Sorted)
    (fun _ _ _ key entry _ hc => hc.insert key entry) s c name h

/-! ## 2. Presence -/

/-- The collector has a definition of this name. -/
def Has (c : Collector) (name : String) : Prop :=
  ∃ entry, c.entries.get? (lowercase name) = some entry ∧ entry.name = name

variable {c c' : Collector} {name : String} {s : Schema}

/-- Names stay present. -/
theorem Has.of_grown {brought : List (String × Schema)} (h : c.Has name)
    (hgrown : Grown c c' brought) : c'.Has name := by
  obtain ⟨old, hold, hname⟩ := h
  obtain ⟨new, hnew, rfl | ⟨hsame, _, _⟩⟩ := hgrown.kept _ old hold
  · exact ⟨new, hnew, hname⟩
  · exact ⟨new, hnew, hsame.trans hname⟩

theorem has_of_store {key : String} {entry : Entry} (h : c.decide name s = .store key entry) :
    Has ⟨c.entries.insert key entry⟩ name := by
  obtain ⟨_, rfl, rfl, _⟩ := decide_store h
  exact ⟨_, by rw [Table.get?_insert, if_pos rfl], rfl⟩

/-- An addition that succeeded found the definition there, or stored it and what is inside it. -/
theorem add_ok_cases (h : c.add name s = (c', .ok ())) :
    (c.decide name s = .known ∧ c' = c) ∨
      ∃ key entry, c.decide name s = .store key entry ∧
        addEntries ⟨c.entries.insert key entry⟩ s.definitions.entries = (c', .ok ()) := by
  rw [add_eq] at h
  cases hdecide : c.decide name s with
  | refuse e =>
    rw [hdecide] at h
    cases h
  | known =>
    rw [hdecide] at h
    cases h
    exact Or.inl ⟨rfl, rfl⟩
  | store key entry =>
    rw [hdecide] at h
    exact Or.inr ⟨key, entry, rfl, h⟩

theorem has_of_add (h : c.add name s = (c', .ok ())) : c'.Has name := by
  rcases add_ok_cases h with ⟨hknown, rfl⟩ | ⟨key, entry, hstore, hentries⟩
  · obtain ⟨_, old, hold, hname, _⟩ := decide_known hknown
    exact ⟨old, hold, hname⟩
  · have hgrown := grown_addEntries s.definitions.entries ⟨c.entries.insert key entry⟩
    rw [hentries] at hgrown
    exact (has_of_store hstore).of_grown hgrown

theorem has_of_addEntries {l : List (String × Subschema Schema)} :
    ∀ {c c' : Collector}, c.addEntries l = (c', .ok ()) →
      ∀ key d, (key, .schema d) ∈ l → c'.Has key := by
  induction l with
  | nil => exact fun _ key d hmem => absurd hmem List.not_mem_nil
  | cons e rest ih =>
    intro c c' h key d hmem
    obtain ⟨key', b | d'⟩ := e
    · rcases List.mem_cons.mp hmem with heq | hmem
      · cases heq
      · exact ih h key d hmem
    · rw [addEntries] at h
      rcases hadd : c.add key' d' with ⟨c₁, e | ⟨⟩⟩
      · rw [hadd] at h
        cases h
      · rw [hadd] at h
        rcases List.mem_cons.mp hmem with heq | hmem
        · -- the name is there, and the additions of `rest` do not remove it
          cases heq
          have hgrown := grown_addEntries rest c₁
          simp only at h
          rw [h] at hgrown
          exact (has_of_add hadd).of_grown hgrown
        · exact ih h key d hmem

/-- **An addition that succeeded has changed nothing, or has added the definitions directly
    inside.** -/
theorem has_definitions_of_add (h : c.add name s = (c', .ok ())) :
    c' = c ∨ ∀ key d, (key, .schema d) ∈ s.definitions.entries → c'.Has key := by
  rcases add_ok_cases h with ⟨_, rfl⟩ | ⟨key, entry, _, hentries⟩
  · exact Or.inl rfl
  · exact Or.inr (has_of_addEntries hentries)

/-! ## 3. Runs -/

/-- What a run of additions that all succeeded has gathered: every name that was added is
    present, and every entry is the contribution of a schema whose own definitions are present. -/
structure Gathered (c : Collector) (l : List (String × Schema)) : Prop where
  sorted : c.entries.Sorted
  present : ∀ p ∈ l, c.Has p.1
  origin : ∀ key entry, c.entries.get? key = some entry → ∃ p ∈ l,
    (entry.name, entry.schema) ∈ contributions p.1 p.2 ∧
      ∀ name d, (name, .schema d) ∈ p.2.definitions.entries → c.Has name

theorem gathered_empty : Gathered {} [] where
  sorted := List.Pairwise.nil
  present _ h := absurd h List.not_mem_nil
  origin _ _ h := by cases h

theorem Gathered.add {l : List (String × Schema)} (hc : Gathered c l)
    (h : c.add name s = (c', .ok ())) : Gathered c' (l ++ [(name, s)]) := by
  have hgrown : Grown c c' (contributions name s) := by
    have := add_grown s c name
    rw [h] at this
    exact this
  refine ⟨?_, ?_, ?_⟩
  · have := sorted_add name s hc.sorted
    rw [h] at this
    exact this
  · intro p hp
    rcases List.mem_append.mp hp with hp | hp
    · exact (hc.present p hp).of_grown hgrown
    · obtain rfl := List.mem_singleton.mp hp
      exact has_of_add h
  · intro key entry hentry
    -- an entry that was there before keeps its origin
    have hold (hentry : c.entries.get? key = some entry) : ∃ p ∈ l ++ [(name, s)],
        (entry.name, entry.schema) ∈ contributions p.1 p.2 ∧
          ∀ name d, (name, .schema d) ∈ p.2.definitions.entries → c'.Has name := by
      obtain ⟨p, hp, hmem, hpresent⟩ := hc.origin key entry hentry
      exact ⟨p, List.mem_append_left _ hp, hmem, fun name d hd => (hpresent name d hd).of_grown hgrown⟩
    rcases has_definitions_of_add h with rfl | hdefinitions
    · exact hold hentry
    · rcases hgrown.origin key entry hentry with hentry | ⟨_, _, hmem⟩
      · exact hold hentry
      · exact ⟨_, List.mem_append_right _ (List.mem_singleton.mpr rfl), hmem, hdefinitions⟩

theorem Gathered.addEach {m : List (String × Schema)} :
    ∀ {c : Collector} {l : List (String × Schema)}, Gathered c l → Succeeds c m →
      Gathered (c.addEach m).1 (l ++ m) := by
  induction m with
  | nil =>
    intro c l hc _
    rw [List.append_nil]
    exact hc
  | cons e rest ih =>
    intro c l hc h
    obtain ⟨name, s⟩ := e
    obtain ⟨hfirst, hrest⟩ := succeeds_cons_iff.mp h
    have hadded := ih (hc.add (Prod.ext rfl hfirst)) hrest
    rw [List.append_assoc] at hadded
    exact hadded

theorem gathered_of_succeeds {l : List (String × Schema)} (h : Succeeds {} l) :
    Gathered (Collector.addEach {} l).1 l :=
  gathered_empty.addEach h

/-- If checksums stand for canonical forms, every name that was contributed is present. -/
theorem has_of_faithful {l : List (String × Schema)} (hfaithful : Faithful (allContributions l))
    (h : Succeeds {} l) : ∀ p ∈ allContributions l, (Collector.addEach {} l).1.Has p.1 := by
  intro p hp
  obtain ⟨entry, hentry, hname, _⟩ := ((addEach_empty_merges hfaithful).2 h).held p hp
  exact ⟨entry, hentry, hname⟩

/-! ## 4. The finished table -/

theorem mem_keys_finalize (strip : Bool) (h : c.Has name) : name ∈ (c.finalize strip).keys := by
  obtain ⟨entry, hentry, rfl⟩ := h
  rw [finalize, Table.mem_keys_ofList_iff, List.map_map]
  exact List.mem_map.mpr ⟨entry, List.mem_map.mpr ⟨_, Table.mem_of_get? hentry, rfl⟩, rfl⟩

/-- A stripped table holds what was collected, without the definitions inside. -/
theorem mem_entries_finalize (hc : c.entries.Sorted) (h : (name, s) ∈ (c.finalize true).entries) :
    ∃ key entry, c.entries.get? key = some entry ∧ entry.name = name ∧
      s = { entry.schema with definitions := {} } := by
  obtain ⟨entry, hentry, heq⟩ := List.mem_map.mp (Table.mem_of_mem_ofList h)
  cases heq
  obtain ⟨⟨key, entry⟩, hmem, rfl⟩ := List.mem_map.mp hentry
  exact ⟨key, entry, hc.get?_of_mem hmem, rfl, rfl⟩

end SchemaCatalog.Collector
