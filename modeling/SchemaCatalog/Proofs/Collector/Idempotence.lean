/-
  Adding once more
  ================
  **A definition that has been added can be added again, and nothing changes.**

  An addition that succeeds finds the definition known, or stores it and
  then adds the definitions inside it.  Those may replace entries, the one just stored
  not excepted, but whatever is added only makes the entries of a collector
  grow (`Grown`), and what is known stays known as they grow.  So the second
  addition stops at the definition itself, even if other additions, some of
  them failed, lie between the two.

  Nothing is asked of the digests: equal schemas have equal checksums, and
  no more than that is used.
-/
import SchemaCatalog.Proofs.Collector.Upkeep

namespace SchemaCatalog.Collector

variable {c c' : Collector} {name : String} {s : Schema}

theorem add_of_known (h : c.decide name s = .known) : c.add name s = (c, .ok ()) := by
  rw [add_eq, h]

/-- A definition is known after an addition that succeeded. -/
theorem decide_after_ok (h : c.add name s = (c', .ok ())) : c'.decide name s = .known := by
  rcases add_ok_cases h with ⟨hknown, rfl⟩ | ⟨key, entry, hstore, hentries⟩
  · exact hknown
  · have hgrown := grown_addEntries s.definitions.entries ⟨c.entries.insert key entry⟩
    rw [hentries] at hgrown
    exact decide_of_stored hstore hgrown

/-- **Addition is idempotent.**  After an addition that succeeded, whatever the collector was
    before, adding the same definition again succeeds and changes nothing, at once and after any
    further additions, failed ones included.  The definition is held under its name, with its
    checksum, and with examples if it has any. -/
theorem add_idempotent (c c' : Collector) (name : String) (s : Schema)
    (h : c.add name s = (c', .ok ())) :
    c'.add name s = (c', .ok ()) ∧
    (∀ l, (c'.addEach l).1.add name s = ((c'.addEach l).1, .ok ())) ∧
    ∃ e, c'.entries.get? (lowercase name) = some e ∧ e.name = name ∧ e.checksum = s.checksum ∧
      (s.hasExamples → e.schema.hasExamples) := by
  have hknown : c'.decide name s = .known := decide_after_ok h
  refine ⟨add_of_known hknown, fun l => ?_, ?_⟩
  · exact add_of_known (known_of_grown hknown (addEach_grown c'))
  · obtain ⟨_, e, he, hname, hchecksum, hexamples⟩ := decide_known hknown
    exact ⟨e, he, hname, hchecksum, fun hs => hexamples.resolve_right (not_not_intro hs)⟩

/-- The schema of a pet with an example, and a tag inside that has none. -/
def namedPetSchema : Schema := { petSchema with examples := [.str "Tom"] }

/-- A collector that holds a cat without an example, and a tag whose example was added on the way
    to a failure. -/
def afterFailure : Collector :=
  (addEach {} [("Cat", petSchema), ("Pet", selfCollidingSchema)]).1

/-- The cat is replaced by its copy with an example, and known from then on. -/
theorem namedPetSchema_add_idempotent :
    (addEach {} [("Cat", petSchema), ("Pet", selfCollidingSchema)]).2 =
      [.ok (), .error (.caseCollision "Pet" "pet")] ∧
    ∃ c', afterFailure.add "Cat" namedPetSchema = (c', .ok ()) ∧ c' ≠ afterFailure ∧
      c'.add "Cat" namedPetSchema = (c', .ok ()) ∧
      (∀ l, (c'.addEach l).1.add "Cat" namedPetSchema = ((c'.addEach l).1, .ok ())) ∧
      ∃ e, c'.entries.get? (lowercase "Cat") = some e ∧ e.name = "Cat" ∧
        e.checksum = namedPetSchema.checksum ∧
        (namedPetSchema.hasExamples → e.schema.hasExamples) := by
  have hrun : (addEach {} [("Cat", petSchema), ("Pet", selfCollidingSchema)]).2 =
        [.ok (), .error (.caseCollision "Pet" "pet")] ∧
      (afterFailure.add "Cat" namedPetSchema).2 = .ok () ∧
      (afterFailure.add "Cat" namedPetSchema).1 ≠ afterFailure := by
    decide +kernel
  obtain ⟨hfailed, hok, hchanged⟩ := hrun
  have hadd : afterFailure.add "Cat" namedPetSchema =
      ((afterFailure.add "Cat" namedPetSchema).1, .ok ()) := Prod.ext rfl hok
  exact ⟨hfailed, _, hadd, hchanged, add_idempotent _ _ _ _ hadd⟩

end SchemaCatalog.Collector
