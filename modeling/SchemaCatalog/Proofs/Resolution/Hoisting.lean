/-
  Hoisting
  ========
  **What a table of definitions is after a schema has been hoisted into it.**

  Hoisting puts a schema into a table under a free name and copies the
  definitions inside it, at any depth, unless their names are taken.  Three
  things hold of the table that results:

    * nothing that was in it is replaced, and whatever is new came along with
      all of its own definitions (`Completes`);
    * it has more entries than before (`size_lt_hoist`);
    * a new entry is the schema itself or one of the definitions nested in it
      (`hoist_origin`).

  `Completes` is reflexive and transitive, so that what holds of one schema
  hoisted holds of any number of them, one after the other.
-/
import SchemaCatalog.Resolve
import SchemaCatalog.Proofs.Table
import SchemaCatalog.Proofs.Schema.Nesting

namespace SchemaCatalog.Schema

/-- The table `u` extends `t`, and a schema that only `u` has finds all of its own
    definitions in `u`. -/
structure Completes (t u : Definitions) : Prop where
  extends_ : t.Extends u
  closed : ∀ name e, u.get? name = some (.schema e) → t.contains name = false →
    ∀ key ∈ e.definitions.keys, u.contains key = true

namespace Completes

theorem refl (t : Definitions) : Completes t t where
  extends_ := Table.Extends.refl t
  closed := by
    intro name e hget hnew
    rw [Table.contains_of_get? hget] at hnew
    exact absurd hnew (by decide)

theorem trans {t u v : Definitions} (h : Completes t u) (h' : Completes u v) : Completes t v where
  extends_ := h.extends_.trans h'.extends_
  closed := by
    intro name e hget hnew key hkey
    cases hu : u.get? name with
    | none => exact h'.closed name e hget (Table.get?_eq_none_iff.mp hu) key hkey
    | some d =>
      -- the entry was there after the first step, and what it needs with it
      have hd : d = .schema e := Option.some.inj ((h'.extends_ name d hu).symm.trans hget)
      exact h'.extends_.contains (h.closed name e (hu.trans (congrArg some hd)) hnew key hkey)

end Completes

/-! ## 1. Growth and closure -/

theorem completes_insertIfNew_flag (t : Definitions) (name : String) (b : Bool) :
    Completes t (t.insertIfNew name (.flag b)) where
  extends_ := Table.extends_insertIfNew t name (.flag b)
  closed := by
    intro k e hget hnew
    unfold Table.insertIfNew at hget
    split at hget
    · rw [Table.contains_of_get? hget] at hnew
      exact absurd hnew (by decide)
    · rw [Table.get?_insert] at hget
      split at hget
      · cases hget
      · rw [Table.contains_of_get? hget] at hnew
        exact absurd hnew (by decide)

/-- What hoisting each schema of a list does, hoisting the whole list does, and every name of
    the list is then taken. -/
theorem completes_hoistEntries (l : List (String × Subschema Schema))
    (each : ∀ name d, (name, .schema d) ∈ l → ∀ (t : Definitions) (k : String),
      t.contains k = false → Completes t (hoist t k d) ∧ (hoist t k d).contains k = true)
    (t : Definitions) :
    Completes t (hoistEntries t l) ∧
      ∀ key ∈ l.map (·.1), (hoistEntries t l).contains key = true := by
  induction l generalizing t with
  | nil => exact ⟨Completes.refl t, by simp⟩
  | cons entry rest ih =>
    obtain ⟨name, d⟩ := entry
    have hrest : ∀ u, Completes u (hoistEntries u rest) ∧
        ∀ key ∈ rest.map (·.1), (hoistEntries u rest).contains key = true :=
      ih fun name d h => each name d (List.mem_cons_of_mem _ h)
    -- whatever the first entry is, it leaves a table with its name taken
    have hfirst : ∃ u, hoistEntries t ((name, d) :: rest) = hoistEntries u rest ∧
        Completes t u ∧ u.contains name = true := by
      cases d with
      | flag b =>
        exact ⟨_, rfl, completes_insertIfNew_flag t name b, Table.contains_insertIfNew t name _⟩
      | schema s =>
        by_cases htaken : t.contains name = true
        · exact ⟨t, by rw [hoistEntries, if_pos htaken], Completes.refl t, htaken⟩
        · have hhoist := each name s List.mem_cons_self t name (Bool.eq_false_iff.mpr htaken)
          exact ⟨hoist t name s, by rw [hoistEntries, if_neg htaken], hhoist.1, hhoist.2⟩
    obtain ⟨u, heq, hcompletes, hname⟩ := hfirst
    rw [heq]
    refine ⟨hcompletes.trans (hrest u).1, fun key hkey => ?_⟩
    rcases List.mem_cons.mp hkey with rfl | hkey
    · exact (hrest u).1.extends_.contains hname
    · exact (hrest u).2 key hkey

/-- **Hoisting completes a table.**  Under a free name nothing is replaced, the name is then
    taken, and everything new has its own definitions beside it. -/
theorem completes_hoist (s : Schema) : ∀ (t : Definitions) (name : String),
    t.contains name = false → Completes t (hoist t name s) ∧
      (hoist t name s).get? name = some (.schema s) := by
  induction s using inductionOnDefinitions with
  | step s ih =>
    intro t name hfree
    have hentries := completes_hoistEntries s.definitions.entries
      (fun k d h u k' hk' => ⟨(ih k d h u k' hk').1, Table.contains_of_get? (ih k d h u k' hk').2⟩)
      (t.insert name (.schema s))
    have hname : (hoist t name s).get? name = some (.schema s) := by
      rw [hoist_eq]
      exact hentries.1.extends_ name _ (by rw [Table.get?_insert, if_pos rfl])
    refine ⟨⟨?_, ?_⟩, hname⟩
    · rw [hoist_eq]
      exact (Table.extends_insert (.schema s) hfree).trans hentries.1.extends_
    · intro k e hget hnew key hkey
      by_cases hk : k = name
      · -- the schema itself: its definitions have just been hoisted
        subst hk
        have he : e = s := by
          have := hget.symm.trans hname
          simpa using this
        subst he
        rw [hoist_eq]
        exact hentries.2 key hkey
      · have hnew' : (t.insert name (.schema s)).contains k = false := by
          rw [Table.contains, Table.get?_insert, if_neg hk]
          exact hnew
        rw [hoist_eq] at hget ⊢
        exact hentries.1.closed k e hget hnew' key hkey

/-! ## 2. Size -/

/-- A list of definitions never makes a table smaller. -/
theorem size_le_hoistEntries (l : List (String × Subschema Schema))
    (each : ∀ name d, (name, .schema d) ∈ l → ∀ (t : Definitions) (k : String),
      t.contains k = false → t.size < (hoist t k d).size)
    (t : Definitions) : t.size ≤ (hoistEntries t l).size := by
  induction l generalizing t with
  | nil => exact Nat.le_refl _
  | cons entry rest ih =>
    obtain ⟨name, d⟩ := entry
    have hrest : ∀ u, u.size ≤ (hoistEntries u rest).size :=
      ih fun name d h => each name d (List.mem_cons_of_mem _ h)
    by_cases htaken : t.contains name = true
    · -- a taken name is passed over
      have hskip : hoistEntries t ((name, d) :: rest) = hoistEntries t rest := by
        cases d with
        | flag b => rw [hoistEntries, Table.insertIfNew, if_pos htaken]
        | schema s => rw [hoistEntries, if_pos htaken]
      rw [hskip]
      exact hrest t
    · have hfree := Bool.eq_false_iff.mpr htaken
      cases d with
      | flag b =>
        rw [hoistEntries, Table.insertIfNew, if_neg htaken]
        have hinsert := Table.size_insert (.flag b) hfree
        have := hrest (t.insert name (.flag b))
        omega
      | schema s =>
        rw [hoistEntries, if_neg htaken]
        have hhoist := each name s List.mem_cons_self t name hfree
        have := hrest (hoist t name s)
        omega

/-- **Hoisting makes a table larger**, if the name is free. -/
theorem size_lt_hoist (s : Schema) : ∀ (t : Definitions) (name : String),
    t.contains name = false → t.size < (hoist t name s).size := by
  induction s using inductionOnDefinitions with
  | step s ih =>
    intro t name hfree
    rw [hoist_eq]
    have hinsert := Table.size_insert (.schema s) hfree
    have := size_le_hoistEntries s.definitions.entries ih (t.insert name (.schema s))
    omega

/-! ## 3. Origin -/

theorem hoistEntries_origin (l : List (String × Subschema Schema))
    (each : ∀ name d, (name, .schema d) ∈ l → ∀ (t : Definitions) (k key : String)
      (v : Subschema Schema), (hoist t k d).get? key = some v →
        t.get? key = some v ∨ (key = k ∧ v = .schema d) ∨ d.Nests key v)
    (t : Definitions) (key : String) (v : Subschema Schema)
    (h : (hoistEntries t l).get? key = some v) :
    t.get? key = some v ∨ (key, v) ∈ l ∨
      ∃ name d, (name, .schema d) ∈ l ∧ d.Nests key v := by
  induction l generalizing t with
  | nil => exact Or.inl h
  | cons entry rest ih =>
    obtain ⟨name, d⟩ := entry
    have hrest : ∀ u, (hoistEntries u rest).get? key = some v →
        u.get? key = some v ∨ (key, v) ∈ rest ∨
          ∃ name d, (name, .schema d) ∈ rest ∧ d.Nests key v :=
      fun u => ih (fun name d h => each name d (List.mem_cons_of_mem _ h)) u
    -- what the rest of the list brings, the list brings
    have hlater : ((key, v) ∈ rest ∨ ∃ name d, (name, .schema d) ∈ rest ∧ d.Nests key v) →
        (key, v) ∈ (name, d) :: rest ∨
          ∃ name' d', (name', .schema d') ∈ (name, d) :: rest ∧ d'.Nests key v := by
      rintro (hmem | ⟨k, e, hmem, hnests⟩)
      · exact Or.inl (List.mem_cons_of_mem _ hmem)
      · exact Or.inr ⟨k, e, List.mem_cons_of_mem _ hmem, hnests⟩
    cases d with
    | flag b =>
      rw [hoistEntries] at h
      rcases hrest _ h with hu | hlate
      · unfold Table.insertIfNew at hu
        split at hu
        · exact Or.inl hu
        · rw [Table.get?_insert] at hu
          split at hu
          · next hk =>
            cases hu
            subst hk
            exact Or.inr (Or.inl List.mem_cons_self)
          · exact Or.inl hu
      · exact Or.inr (hlater hlate)
    | schema s =>
      rw [hoistEntries] at h
      rcases hrest _ h with hu | hlate
      · split at hu
        · exact Or.inl hu
        · rcases each name s List.mem_cons_self t name key v hu with hold | ⟨hk, hv⟩ | hnests
          · exact Or.inl hold
          · subst hk hv
            exact Or.inr (Or.inl List.mem_cons_self)
          · exact Or.inr (Or.inr ⟨name, s, List.mem_cons_self, hnests⟩)
      · exact Or.inr (hlater hlate)

/-- **Every entry has an origin**: it was in the table, or it is the schema that was hoisted, or
    it is nested in that schema. -/
theorem hoist_origin (s : Schema) : ∀ (t : Definitions) (name key : String)
    (v : Subschema Schema), (hoist t name s).get? key = some v →
      t.get? key = some v ∨ (key = name ∧ v = .schema s) ∨ s.Nests key v := by
  induction s using inductionOnDefinitions with
  | step s ih =>
    intro t name key v h
    rw [hoist_eq] at h
    rcases hoistEntries_origin s.definitions.entries ih _ key v h with hold | hmem | hnested
    · rw [Table.get?_insert] at hold
      split at hold
      · next hk => exact Or.inr (Or.inl ⟨hk, (Option.some.inj hold).symm⟩)
      · exact Or.inl hold
    · exact Or.inr (Or.inr (Nests.direct hmem))
    · obtain ⟨k, d, hmem, hnests⟩ := hnested
      exact Or.inr (Or.inr (Nests.within hmem hnests))

end SchemaCatalog.Schema
