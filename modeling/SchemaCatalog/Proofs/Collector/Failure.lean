/-
  Additions that fail
  ===================
  **What a collector holds after an addition that failed.**

  A definition is decided on and stored before the definitions inside it are
  added.  If it is `Refused` itself, the collector stays as it was and refuses it
  again.  If a definition inside it is refused, the outer one is stored by
  then, with whatever was added before the failure; it is known from
  then on, so adding it once more succeeds without looking inside
  (`add_error_unchanged_iff`).

  Whatever the outcome, no entry is lost or renamed and no checksum changes: an
  addition replaces an entry at most by a copy with examples (`Grown`).
-/
import SchemaCatalog.Proofs.Collector.Merging

namespace SchemaCatalog.Collector

variable {c c' : Collector} {name : String} {s : Schema}

/-! ## 1. Refusal -/

/-- The definition itself cannot be added, whatever is inside it: it has no name, or the entry of
    its name in lower case is spelled differently or has a different canonical form. -/
def Refused (c : Collector) (name : String) (s : Schema) : Prop :=
  name = "" ∨ ∃ old, c.entries.get? (lowercase name) = some old ∧
    (old.name ≠ name ∨ old.checksum ≠ s.checksum)

theorem refused_iff : Refused c name s ↔ ∃ e, c.decide name s = .refuse e := by
  constructor
  · intro h
    by_cases hname : name = ""
    · exact ⟨_, if_pos hname⟩
    · obtain ⟨old, hold, hdiffers⟩ := h.resolve_left hname
      simp only [Collector.decide, if_neg hname, hold]
      by_cases hspelled : old.name = name
      · have hchecksum := hdiffers.resolve_left (not_not_intro hspelled)
        exact ⟨_, by rw [if_neg (not_not_intro hspelled), if_pos hchecksum]⟩
      · exact ⟨_, if_pos hspelled⟩
  · rintro ⟨e, h⟩
    exact decide_refuse h

/-! ## 2. What an addition does to the entries -/

/-- An entry stays, or is replaced by a copy that has examples where it had none. -/
def Entry.Updates (old new : Entry) : Prop :=
  new = old ∨ (new.name = old.name ∧ new.checksum = old.checksum ∧
    new.schema.hasExamples ∧ ¬ old.schema.hasExamples)

theorem Entry.Updates.trans {old mid new : Entry} (h : old.Updates mid) (h' : mid.Updates new) :
    old.Updates new := by
  rcases h with rfl | ⟨hname, hchecksum, hmid, hold⟩
  · exact h'
  · rcases h' with rfl | ⟨_, _, _, hno⟩
    · exact Or.inr ⟨hname, hchecksum, hmid, hold⟩
    · exact absurd hmid hno

/-- No entry is lost, and every entry that is new or replaced is one of the contributions. -/
structure Grown (c c' : Collector) (brought : List (String × Schema)) : Prop where
  kept : ∀ key old, c.entries.get? key = some old →
    ∃ new, c'.entries.get? key = some new ∧ old.Updates new
  origin : ∀ key new, c'.entries.get? key = some new → c.entries.get? key = some new ∨
    (key = lowercase new.name ∧ new.checksum = new.schema.checksum ∧
      (new.name, new.schema) ∈ brought)

namespace Grown

variable {brought brought' : List (String × Schema)}

theorem refl (c : Collector) (brought : List (String × Schema)) : Grown c c brought where
  kept _ old h := ⟨old, h, Or.inl rfl⟩
  origin _ _ h := Or.inl h

theorem mono (h : Grown c c' brought) (hsub : ∀ p ∈ brought, p ∈ brought') :
    Grown c c' brought' where
  kept := h.kept
  origin key new hget := by
    rcases h.origin key new hget with hold | ⟨hkey, hchecksum, hmem⟩
    · exact Or.inl hold
    · exact Or.inr ⟨hkey, hchecksum, hsub _ hmem⟩

theorem trans {c'' : Collector} (h : Grown c c' brought) (h' : Grown c' c'' brought) :
    Grown c c'' brought where
  kept key old hold := by
    obtain ⟨mid, hmid, hupdates⟩ := h.kept key old hold
    obtain ⟨new, hnew, hupdates'⟩ := h'.kept key mid hmid
    exact ⟨new, hnew, hupdates.trans hupdates'⟩
  origin key new hget := by
    rcases h'.origin key new hget with hmid | hnew
    · exact h.origin key new hmid
    · exact Or.inr hnew

theorem store {key : String} {entry : Entry} (h : c.decide name s = .store key entry) :
    Grown c ⟨c.entries.insert key entry⟩ [(name, s)] := by
  obtain ⟨_, rfl, rfl, hold⟩ := decide_store h
  refine ⟨?_, ?_⟩
  · intro key old hget
    rw [Table.get?_insert]
    by_cases hkey : key = lowercase name
    · subst hkey
      obtain ⟨hname, hchecksum, hexamples, hnone⟩ := hold old hget
      exact ⟨_, if_pos rfl, Or.inr ⟨hname.symm, hchecksum.symm, hexamples, hnone⟩⟩
    · exact ⟨old, (if_neg hkey).trans hget, Or.inl rfl⟩
  · intro key new hget
    rw [Table.get?_insert] at hget
    by_cases hkey : key = lowercase name
    · rw [if_pos hkey] at hget
      cases hget
      exact Or.inr ⟨hkey, rfl, List.mem_singleton.mpr rfl⟩
    · rw [if_neg hkey] at hget
      exact Or.inl hget

end Grown

theorem addEntries_grown {l : List (String × Subschema Schema)}
    (each : ∀ key d, (key, .schema d) ∈ l → ∀ c : Collector,
      Grown c (c.add key d).1 (contributions key d)) :
    ∀ c : Collector, Grown c (c.addEntries l).1 (contributionsOf l) := by
  induction l with
  | nil => exact fun c => Grown.refl c _
  | cons e rest ih =>
    have hrest := ih fun key d hmem => each key d (List.mem_cons_of_mem _ hmem)
    intro c
    obtain ⟨key, b | d⟩ := e
    · exact hrest c
    · have hfirst : Grown c (c.add key d).1 (contributionsOf ((key, .schema d) :: rest)) :=
        (each key d List.mem_cons_self c).mono fun p hp => List.mem_append_left _ hp
      rw [addEntries]
      rcases hadd : c.add key d with ⟨c', e | ⟨⟩⟩
      · rw [hadd] at hfirst
        exact hfirst
      · rw [hadd] at hfirst
        exact hfirst.trans ((hrest c').mono fun p hp => List.mem_append_right _ hp)

/-- **An addition only adds**, whether it succeeds or fails. -/
theorem add_grown (s : Schema) : ∀ (c : Collector) (name : String),
    Grown c (c.add name s).1 (contributions name s) := by
  induction s using Schema.inductionOnDefinitions with
  | step s ih =>
    intro c name
    rw [add_eq]
    cases hdecide : c.decide name s with
    | refuse e => exact Grown.refl c _
    | known => exact Grown.refl c _
    | store key entry =>
      -- the definition is in before those inside it, which `ih` covers, are added
      rw [contributions_eq]
      have hself : ∀ p ∈ [(name, s)], p ∈ (name, s) :: contributionsOf s.definitions.entries := by
        simp
      have hinside := addEntries_grown (fun key d hd c => ih key d hd c key)
        ⟨c.entries.insert key entry⟩
      exact ((Grown.store hdecide).mono hself).trans
        (hinside.mono fun p hp => List.mem_cons_of_mem _ hp)

theorem grown_addEntries (l : List (String × Subschema Schema)) (c : Collector) :
    Grown c (c.addEntries l).1 (contributionsOf l) :=
  addEntries_grown (fun key d _ c => add_grown d c key) c

/-! ## 3. Adding a second time -/

theorem decide_known_of_entry {old : Entry} (hname : name ≠ "")
    (hold : c.entries.get? (lowercase name) = some old) (hspelled : old.name = name)
    (hchecksum : old.checksum = s.checksum)
    (hexamples : old.schema.hasExamples ∨ ¬ s.hasExamples) : c.decide name s = .known := by
  simp only [Collector.decide, if_neg hname, hold]
  rw [if_neg (not_not_intro hspelled), if_neg (not_not_intro hchecksum), if_pos hexamples]

/-- A definition that is known stays known, whatever is added. -/
theorem known_of_grown {brought : List (String × Schema)} (h : c.decide name s = .known)
    (hgrown : Grown c c' brought) : c'.decide name s = .known := by
  obtain ⟨hname, old, hold, hspelled, hchecksum, hexamples⟩ := decide_known h
  obtain ⟨new, hnew, rfl | ⟨hsame, hdigest, hnewExamples, _⟩⟩ := hgrown.kept _ old hold
  · exact decide_known_of_entry hname hnew hspelled hchecksum hexamples
  · exact decide_known_of_entry hname hnew (hsame.trans hspelled) (hdigest.trans hchecksum)
      (Or.inl hnewExamples)

/-- A definition that has been stored is known from then on, whatever is added after it. -/
theorem decide_of_stored {key : String} {entry : Entry} {brought : List (String × Schema)}
    (h : c.decide name s = .store key entry)
    (hgrown : Grown ⟨c.entries.insert key entry⟩ c' brought) : c'.decide name s = .known := by
  obtain ⟨hname, rfl, rfl, _⟩ := decide_store h
  have hstored : Collector.decide
      ⟨c.entries.insert (lowercase name) ⟨name, s, s.checksum⟩⟩ name s = .known :=
    decide_known_of_entry hname (by rw [Table.get?_insert, if_pos rfl]) rfl rfl (Classical.em _)
  exact known_of_grown hstored hgrown

/-- A failed addition stored nothing, or it stored the definition and failed inside it. -/
theorem add_error_cases {e : SchemaError} (h : c.add name s = (c', .error e)) :
    (c.decide name s = .refuse e ∧ c' = c) ∨
      ∃ key entry, c.decide name s = .store key entry ∧
        addEntries ⟨c.entries.insert key entry⟩ s.definitions.entries = (c', .error e) := by
  rw [add_eq] at h
  cases hdecide : c.decide name s with
  | refuse e' =>
    rw [hdecide] at h
    cases h
    exact Or.inl ⟨rfl, rfl⟩
  | known =>
    rw [hdecide] at h
    cases h
  | store key entry =>
    rw [hdecide] at h
    exact Or.inr ⟨key, entry, rfl, h⟩

theorem decide_after_error {e : SchemaError} {key : String} {entry : Entry}
    (hstore : c.decide name s = .store key entry)
    (h : addEntries ⟨c.entries.insert key entry⟩ s.definitions.entries = (c', .error e)) :
    c'.decide name s = .known := by
  have hgrown := grown_addEntries s.definitions.entries ⟨c.entries.insert key entry⟩
  rw [h] at hgrown
  exact decide_of_stored hstore hgrown

/-- **A failed addition leaves the collector as it was exactly if the definition itself was
    refused**, and exactly then a second try fails again.  If a definition inside it was refused,
    the outer one stays, and a second try succeeds and changes nothing.  In either case no entry
    is lost, and what is new or replaced comes from the definition and those inside it. -/
theorem add_error_unchanged_iff (c c' : Collector) (name : String) (s : Schema) (e : SchemaError)
    (h : c.add name s = (c', .error e)) :
    (c' = c ↔ Refused c name s) ∧
    (c' = c ↔ c'.add name s = (c', .error e)) ∧
    (c' ≠ c → c'.add name s = (c', .ok ()) ∧
      ∃ stored, c'.entries.get? (lowercase name) = some stored ∧ stored.name = name ∧
        stored.checksum = s.checksum) ∧
    Grown c c' (contributions name s) := by
  have hgrown : Grown c c' (contributions name s) := by
    have hadd := add_grown s c name
    rw [h] at hadd
    exact hadd
  rcases add_error_cases h with ⟨hrefuse, rfl⟩ | ⟨key, entry, hstore, hinside⟩
  · have hrefused : Refused c' name s := refused_iff.mpr ⟨e, hrefuse⟩
    exact ⟨iff_of_true rfl hrefused, iff_of_true rfl h, fun hne => absurd rfl hne, hgrown⟩
  · have hknown : c'.decide name s = .known := decide_after_error hstore hinside
    have hagain : c'.add name s = (c', .ok ()) := by rw [add_eq, hknown]
    have hchanged : c' ≠ c := by
      rintro rfl
      rw [hstore] at hknown
      cases hknown
    have hnot : ¬ Refused c name s := by
      rw [refused_iff, hstore]
      rintro ⟨_, ⟨⟩⟩
    obtain ⟨_, stored, hstored, hname, hchecksum, _⟩ := decide_known hknown
    refine ⟨iff_of_false hchanged hnot, iff_of_false hchanged ?_, fun _ => ⟨hagain, stored,
      hstored, hname, hchecksum⟩, hgrown⟩
    rw [hagain]
    rintro ⟨⟩

/-! ## 4. A failure inside a definition -/

/-- The definitions inside the schema of a pet: a tag with an example, and one whose name differs
    from the pet's in letter case only. -/
def selfCollidingSchema : Schema where
  type := some (.single "object")
  definitions := ⟨[("Tag", .schema { Schema.ofType "string" with examples := [.str "red"] }),
    ("pet", .schema (.ofType "object"))]⟩

/-- A collector with a tag that has no example. -/
def tagCollector : Collector :=
  ⟨⟨[("tag", ⟨"Tag", .ofType "string", (Schema.ofType "string").checksum⟩)]⟩⟩

/-- The pet has been stored, and the tag replaced by the copy with an example. -/
def afterCollision : Collector :=
  ⟨⟨[("pet", ⟨"Pet", selfCollidingSchema, selfCollidingSchema.checksum⟩),
    ("tag", ⟨"Tag", { Schema.ofType "string" with examples := [.str "red"] },
      (Schema.ofType "string").checksum⟩)]⟩⟩

theorem add_selfCollidingSchema : tagCollector.add "Pet" selfCollidingSchema =
    (afterCollision, .error (.caseCollision "Pet" "pet")) := by
  decide +kernel

/-- **A failed addition can leave its mark**, and a second try then succeeds: the collision is met
    when the pet and the tag inside it are stored already. -/
theorem failed_addition_stays :
    ({} : Collector).add "Tag" (.ofType "string") = (tagCollector, .ok ()) ∧
    tagCollector.add "Pet" selfCollidingSchema =
      (afterCollision, .error (.caseCollision "Pet" "pet")) ∧
    afterCollision ≠ tagCollector ∧
    afterCollision.add "Pet" selfCollidingSchema = (afterCollision, .ok ()) := by
  have hchanged : afterCollision ≠ tagCollector := by decide +kernel
  refine ⟨by decide +kernel, add_selfCollidingSchema, hchanged, ?_⟩
  rcases add_error_cases add_selfCollidingSchema with ⟨_, hsame⟩ | ⟨key, entry, hstore, hinside⟩
  · exact absurd hsame hchanged
  · rw [add_eq, decide_after_error hstore hinside]

theorem selfCollidingSchema_unchanged_iff :
    tagCollector.add "Pet" selfCollidingSchema =
      (afterCollision, .error (.caseCollision "Pet" "pet")) ∧
    (afterCollision = tagCollector ↔ Refused tagCollector "Pet" selfCollidingSchema) ∧
    (afterCollision = tagCollector ↔ afterCollision.add "Pet" selfCollidingSchema =
      (afterCollision, .error (.caseCollision "Pet" "pet"))) ∧
    (afterCollision ≠ tagCollector →
      afterCollision.add "Pet" selfCollidingSchema = (afterCollision, .ok ()) ∧
      ∃ stored, afterCollision.entries.get? (lowercase "Pet") = some stored ∧
        stored.name = "Pet" ∧ stored.checksum = selfCollidingSchema.checksum) ∧
    Grown tagCollector afterCollision (contributions "Pet" selfCollidingSchema) := by
  exact ⟨add_selfCollidingSchema, add_error_unchanged_iff _ _ _ _ _ add_selfCollidingSchema⟩

end SchemaCatalog.Collector
