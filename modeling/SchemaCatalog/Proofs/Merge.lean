/-
  Laws of merging
  ===============
  **What several object schemas make together, under each strategy.**

  A merge succeeds or not by the names of the properties alone: only
  `errorOnDuplicates` can fail, and does when two inputs declare one name.  If it
  succeeds, the property under a name is the `choice` of the strategy among those
  that the inputs declare, in order.  The choice is associative and takes
  nothing away, which is why merges compose; overwriting prefers the later of
  two, keeping the earlier, so each is the other on the reversed list; where no
  name is declared twice there is nothing to choose.

  So every law is read off `properties_ok_iff`, the success of a run, and
  `get?_foldl_join`, what a run leaves under a name.
-/
import SchemaCatalog.Merge
import SchemaCatalog.Proofs.Outcome
import SchemaCatalog.Proofs.Table

namespace SchemaCatalog

namespace Schema

/-- No property name is declared by both schemas. -/
def SharesNoProperty (s t : Schema) : Prop :=
  ∀ name, s.properties.contains name = true → t.properties.contains name = false

theorem SharesNoProperty.symm {s t : Schema} (h : s.SharesNoProperty t) : t.SharesNoProperty s := by
  intro name ht
  rw [← Bool.not_eq_true]
  intro hs
  rw [h name hs] at ht
  cases ht

end Schema

namespace MergeStrategy

/-! ## 1. The choice among declarations of one name -/

/-- What is taken where the declarations so far have `old` and the next input has `new`. -/
def choice {α : Type} : MergeStrategy → Option α → Option α → Option α
  | keepExisting, old, new => old.or new
  | overwriteDuplicates, old, new | errorOnDuplicates, old, new => new.or old

section

variable {α : Type} (m : MergeStrategy)

@[simp] theorem choice_none_left (b : Option α) : m.choice none b = b := by
  cases m <;> simp [choice]

@[simp] theorem choice_none_right (a : Option α) : m.choice a none = a := by
  cases m <;> simp [choice]

theorem choice_assoc (a b c : Option α) :
    m.choice (m.choice a b) c = m.choice a (m.choice b c) := by
  cases m <;> simp [choice, Option.or_assoc]

@[simp] theorem isSome_choice (a b : Option α) :
    (m.choice a b).isSome = (a.isSome || b.isSome) := by
  cases m <;> simp [choice, Bool.or_comm]

/-- Overwriting and keeping prefer opposite sides. -/
theorem choice_overwrite_swap (a b : Option α) :
    choice .overwriteDuplicates a b = choice .keepExisting b a := rfl

/-- Where one side has nothing, the strategy does not matter. -/
theorem choice_of_isNone {m m' : MergeStrategy} {a b : Option α} (h : a = none ∨ b = none) :
    m.choice a b = m'.choice a b := by
  rcases h with rfl | rfl
  · simp
  · simp

end

/-- The declaration of `name` that is taken from the inputs. -/
def chosen (m : MergeStrategy) (name : String) : List Schema → Option (Subschema Schema)
  | [] => none
  | s :: rest => m.choice (s.properties.get? name) (m.chosen name rest)

theorem chosen_append (m : MergeStrategy) (name : String) (xs ys : List Schema) :
    m.chosen name (xs ++ ys) = m.choice (m.chosen name xs) (m.chosen name ys) := by
  induction xs with
  | nil => simp [chosen]
  | cons s rest ih => rw [List.cons_append, chosen, ih, chosen, choice_assoc]

theorem chosen_reverse (name : String) (xs : List Schema) :
    chosen .keepExisting name xs.reverse = chosen .overwriteDuplicates name xs := by
  induction xs with
  | nil => rfl
  | cons s rest ih =>
    rw [List.reverse_cons, chosen_append, ih, chosen, chosen, choice_none_right, chosen,
      choice_overwrite_swap]

/-- A declaration is taken exactly if an input has one. -/
theorem isSome_chosen_iff {m : MergeStrategy} {name : String} {xs : List Schema} :
    (m.chosen name xs).isSome ↔ ∃ s ∈ xs, s.properties.contains name = true := by
  induction xs with
  | nil => simp [chosen]
  | cons s rest ih =>
    rw [chosen, isSome_choice, Bool.or_eq_true, ih]
    simp only [List.mem_cons, exists_eq_or_imp]
    exact Iff.rfl

/-- Where no name is declared twice, the strategy does not matter. -/
theorem chosen_of_pairwise {m m' : MergeStrategy} {name : String} {xs : List Schema}
    (h : xs.Pairwise Schema.SharesNoProperty) : m.chosen name xs = m'.chosen name xs := by
  induction xs with
  | nil => rfl
  | cons s rest ih =>
    obtain ⟨hfirst, hrest⟩ := List.pairwise_cons.mp h
    rw [chosen, chosen, ih hrest]
    refine choice_of_isNone ?_
    by_cases hs : s.properties.contains name = true
    · refine Or.inr (Option.not_isSome_iff_eq_none.mp fun hlater => ?_)
      obtain ⟨t, ht, hdeclares⟩ := isSome_chosen_iff.mp hlater
      rw [hfirst t ht name hs] at hdeclares
      cases hdeclares
    · exact Or.inl (Table.get?_eq_none_iff.mpr (Bool.eq_false_iff.mpr hs))

/-! ## 2. One input -/

/-- The declarations with one more, if it may be added. -/
def put (m : MergeStrategy) (declared : Definitions) (e : String × Subschema Schema) :
    Definitions :=
  match m with
  | keepExisting => declared.insertIfNew e.1 e.2
  | overwriteDuplicates | errorOnDuplicates => declared.insert e.1 e.2

variable {m : MergeStrategy} {declared declared' : Definitions}

theorem get?_put (e : String × Subschema Schema) (name : String) :
    (m.put declared e).get? name =
      m.choice (declared.get? name) (if name = e.1 then some e.2 else none) := by
  have hinsert : (declared.insert e.1 e.2).get? name =
      (if name = e.1 then some e.2 else none).or (declared.get? name) := by
    rw [Table.get?_insert]
    split <;> simp
  cases m with
  | keepExisting => exact Table.get?_insertIfNew declared e.1 name e.2
  | overwriteDuplicates => exact hinsert
  | errorOnDuplicates => exact hinsert

theorem put_sorted (h : declared.Sorted) (e : String × Subschema Schema) :
    (m.put declared e).Sorted := by
  cases m with
  | keepExisting => exact h.insertIfNew e.1 e.2
  | overwriteDuplicates => exact h.insert e.1 e.2
  | errorOnDuplicates => exact h.insert e.1 e.2

theorem addProperty_ok_iff {e : String × Subschema Schema} :
    m.addProperty declared e.1 e.2 = .ok declared' ↔
      (m = .errorOnDuplicates → declared.contains e.1 = false) ∧ m.put declared e = declared' := by
  by_cases h : declared.contains e.1 = true
  · cases m <;> simp [addProperty, put, Table.insertIfNew, h]
  · cases m <;> simp [addProperty, put, Table.insertIfNew, h]

/-- The declarations with those of one more schema. -/
def join (m : MergeStrategy) (declared : Definitions) (s : Schema) : Definitions :=
  s.properties.entries.foldl m.put declared

theorem get?_foldl_put {l : List (String × Subschema Schema)} (hnodup : (l.map (·.1)).Nodup)
    (name : String) : ∀ declared : Definitions,
    (l.foldl m.put declared).get? name =
      m.choice (declared.get? name) (Table.find? name l) := by
  induction l with
  | nil => exact fun declared => (m.choice_none_right _).symm
  | cons e rest ih =>
    obtain ⟨hfresh, hrest⟩ := List.nodup_cons.mp hnodup
    intro declared
    rw [List.foldl_cons, ih hrest, get?_put, choice_assoc, Table.find?]
    by_cases hname : name = e.1
    · rw [if_pos hname, if_pos hname, hname, Table.find?_eq_none_iff.mpr hfresh, choice_none_right]
    · rw [if_neg hname, if_neg hname, choice_none_left]

theorem get?_join {s : Schema} (hs : s.properties.Sorted) (name : String) :
    (m.join declared s).get? name =
      m.choice (declared.get? name) (s.properties.get? name) :=
  get?_foldl_put hs.nodup_keys name declared

theorem join_sorted (h : declared.Sorted) (s : Schema) : (m.join declared s).Sorted := by
  rw [join]
  generalize s.properties.entries = l
  induction l generalizing declared with
  | nil => exact h
  | cons e rest ih => exact ih (put_sorted h e)

/-- The properties of a schema can be added unless one is declared already and that is an error. -/
theorem addEntries_ok_iff {l : List (String × Subschema Schema)} (hnodup : (l.map (·.1)).Nodup) :
    ∀ declared : Definitions,
    l.foldlM (fun declared e => m.addProperty declared e.1 e.2) declared = .ok declared' ↔
      (m = .errorOnDuplicates → ∀ name ∈ l.map (·.1), declared.contains name = false) ∧
        l.foldl m.put declared = declared' := by
  induction l with
  | nil =>
    intro declared
    constructor
    · intro h
      exact ⟨fun _ _ hname => absurd hname List.not_mem_nil, Except.ok.inj h⟩
    · rintro ⟨_, rfl⟩
      rfl
  | cons e rest ih =>
    obtain ⟨hfresh, hrest⟩ := List.nodup_cons.mp hnodup
    intro declared
    -- what `e` adds is not the name of a later entry
    have hlater : (∀ name ∈ rest.map (·.1), (m.put declared e).contains name = false) ↔
        ∀ name ∈ rest.map (·.1), declared.contains name = false := by
      refine forall₂_congr fun name hname => ?_
      have hne : name ≠ e.1 := by
        rintro rfl
        exact hfresh hname
      rw [Table.contains, get?_put, if_neg hne, choice_none_right, Table.contains]
    rw [List.foldlM_cons, bind_ok_iff, List.foldl_cons, List.map_cons, List.forall_mem_cons]
    constructor
    · rintro ⟨mid, hmid, h⟩
      obtain ⟨hnew, rfl⟩ := addProperty_ok_iff.mp hmid
      obtain ⟨hnames, hresult⟩ := (ih hrest _).mp h
      exact ⟨fun hm => ⟨hnew hm, hlater.mp (hnames hm)⟩, hresult⟩
    · rintro ⟨hnames, hresult⟩
      refine ⟨_, addProperty_ok_iff.mpr ⟨fun hm => (hnames hm).1, rfl⟩,
        (ih hrest _).mpr ⟨?_, hresult⟩⟩
      exact fun hm => hlater.mpr (hnames hm).2

theorem addProperties_ok_iff {s : Schema} (hs : s.properties.Sorted) :
    m.addProperties declared s = .ok declared' ↔
      (m = .errorOnDuplicates →
        ∀ name, s.properties.contains name = true → declared.contains name = false) ∧
      m.join declared s = declared' := by
  simp only [← Table.mem_keys_iff]
  exact addEntries_ok_iff hs.nodup_keys declared

/-! ## 3. All inputs -/

variable {xs ys : List Schema}

/-- What a run leaves under a name. -/
theorem get?_foldl_join (hxs : ∀ s ∈ xs, s.properties.Sorted) (name : String) :
    ∀ declared : Definitions, (xs.foldl m.join declared).get? name =
      m.choice (declared.get? name) (m.chosen name xs) := by
  induction xs with
  | nil => exact fun declared => (m.choice_none_right _).symm
  | cons s rest ih =>
    obtain ⟨hs, hrest⟩ := List.forall_mem_cons.mp hxs
    intro declared
    rw [List.foldl_cons, ih hrest, get?_join hs, choice_assoc, chosen]

theorem foldl_join_sorted (h : declared.Sorted) : (xs.foldl m.join declared).Sorted := by
  induction xs generalizing declared with
  | nil => exact h
  | cons s rest ih => exact ih (join_sorted h s)

/-- No two inputs declare one name, if that is an error. -/
def Admits (m : MergeStrategy) (xs : List Schema) : Prop :=
  m = .errorOnDuplicates → xs.Pairwise Schema.SharesNoProperty

theorem foldlM_addProperties_ok_iff (hxs : ∀ s ∈ xs, s.properties.Sorted) :
    ∀ declared : Definitions, xs.foldlM m.addProperties declared = .ok declared' ↔
      m.Admits xs ∧
      (m = .errorOnDuplicates → ∀ s ∈ xs, ∀ name, s.properties.contains name = true →
        declared.contains name = false) ∧
      xs.foldl m.join declared = declared' := by
  induction xs with
  | nil =>
    intro declared
    constructor
    · intro h
      exact ⟨fun _ => .nil, fun _ _ hs => absurd hs List.not_mem_nil, Except.ok.inj h⟩
    · rintro ⟨_, _, rfl⟩
      rfl
  | cons s rest ih =>
    obtain ⟨hs, hrest⟩ := List.forall_mem_cons.mp hxs
    intro declared
    have hjoined (name : String) : (m.join declared s).contains name = false ↔
        declared.contains name = false ∧ s.properties.contains name = false := by
      rw [Table.contains, get?_join hs, isSome_choice, Bool.or_eq_false_iff]
      exact Iff.rfl
    rw [List.foldlM_cons, bind_ok_iff, List.foldl_cons]
    constructor
    · rintro ⟨mid, hmid, h⟩
      obtain ⟨hnew, rfl⟩ := (addProperties_ok_iff hs).mp hmid
      obtain ⟨hadmits, hfree, hresult⟩ := (ih hrest _).mp h
      refine ⟨fun hm => List.pairwise_cons.mpr ⟨?_, hadmits hm⟩, fun hm => ?_, hresult⟩
      · intro t ht
        exact Schema.SharesNoProperty.symm fun name hname =>
          ((hjoined name).mp (hfree hm t ht name hname)).2
      · refine List.forall_mem_cons.mpr ⟨hnew hm, fun t ht name hname => ?_⟩
        exact ((hjoined name).mp (hfree hm t ht name hname)).1
    · rintro ⟨hadmits, hfree, hresult⟩
      refine ⟨_, (addProperties_ok_iff hs).mpr ⟨fun hm => hfree hm s List.mem_cons_self, rfl⟩,
        (ih hrest _).mpr ⟨?_, fun hm t ht name hname => ?_, hresult⟩⟩
      · exact fun hm => (List.pairwise_cons.mp (hadmits hm)).2
      · have hapart := (List.pairwise_cons.mp (hadmits hm)).1 t ht
        exact (hjoined name).mpr
          ⟨hfree hm t (List.mem_cons_of_mem _ ht) name hname, hapart.symm name hname⟩

/-- **A run succeeds unless two inputs declare one name and that is an error.** -/
theorem properties_ok_iff (hxs : ∀ s ∈ xs, s.properties.Sorted) :
    xs.foldlM m.addProperties {} = .ok declared ↔
      m.Admits xs ∧ xs.foldl m.join {} = declared := by
  rw [foldlM_addProperties_ok_iff hxs]
  exact and_congr_right fun _ => and_iff_right fun _ _ _ _ _ => rfl

end MergeStrategy

/-! ## 4. Merged schemas -/

open MergeStrategy

variable {m : MergeStrategy} {xs ys : List Schema} {s a b : Schema}

/-- The properties and required names of a list of schemas, put together. -/
structure Gathers (m : MergeStrategy) (xs : List Schema) (s : Schema) : Prop where
  sorted : s.properties.Sorted
  properties : ∀ name, s.properties.get? name = m.chosen name xs
  required : s.required = sortedNames (xs.flatMap Schema.required)

/-- The object schema with the properties and required names of a list of schemas. -/
def merged (m : MergeStrategy) (xs : List Schema) : Schema where
  type := some (.single "object")
  properties := xs.foldl m.join {}
  required := sortedNames (xs.flatMap Schema.required)

theorem gathers_merged (hxs : ∀ s ∈ xs, s.properties.Sorted) : Gathers m xs (merged m xs) where
  sorted := foldl_join_sorted List.Pairwise.nil
  properties name := by
    rw [merged, get?_foldl_join hxs]
    exact m.choice_none_left _
  required := rfl

theorem mergeSchemas_ok_iff (hne : xs ≠ []) (hxs : ∀ s ∈ xs, s.properties.Sorted) :
    mergeSchemas m xs = .ok s ↔ m.Admits xs ∧ merged m xs = s := by
  rw [mergeSchemas, List.isEmpty_eq_false_iff.mpr hne, if_neg Bool.false_ne_true]
  constructor
  · intro h
    obtain ⟨properties, hproperties, rfl⟩ := return_ok h
    obtain ⟨hadmits, rfl⟩ := (properties_ok_iff hxs).mp hproperties
    exact ⟨hadmits, rfl⟩
  · rintro ⟨hadmits, rfl⟩
    exact bind_ok_iff.mpr ⟨_, (properties_ok_iff hxs).mpr ⟨hadmits, rfl⟩, rfl⟩

/-- A merge that succeeds gathers its inputs, also if there are none. -/
theorem gathers_of_mergeSchemas (hxs : ∀ s ∈ xs, s.properties.Sorted)
    (h : mergeSchemas m xs = .ok s) : m.Admits xs ∧ Gathers m xs s := by
  by_cases hne : xs = []
  · subst hne
    cases h
    exact ⟨fun _ => .nil, List.Pairwise.nil, fun _ => rfl, rfl⟩
  · obtain ⟨hadmits, rfl⟩ := (mergeSchemas_ok_iff hne hxs).mp h
    exact ⟨hadmits, gathers_merged hxs⟩

theorem exists_mergeSchemas_ok (hxs : ∀ s ∈ xs, s.properties.Sorted) (h : m.Admits xs) :
    ∃ s, mergeSchemas m xs = .ok s := by
  by_cases hne : xs = []
  · subst hne
    exact ⟨{}, rfl⟩
  · exact ⟨_, (mergeSchemas_ok_iff hne hxs).mpr ⟨h, rfl⟩⟩

/-- Merges of the same names and the same choices are the same schema. -/
theorem merged_congr {m' : MergeStrategy} (hxs : ∀ s ∈ xs, s.properties.Sorted)
    (hys : ∀ s ∈ ys, s.properties.Sorted)
    (hproperties : ∀ name, m.chosen name xs = m'.chosen name ys)
    (hrequired : ∀ name, name ∈ xs.flatMap Schema.required ↔ name ∈ ys.flatMap Schema.required) :
    merged m xs = merged m' ys := by
  have htables : xs.foldl m.join {} = ys.foldl m'.join {} := by
    refine (gathers_merged hxs).sorted.ext (gathers_merged hys).sorted fun name => ?_
    exact ((gathers_merged hxs).properties name).trans
      ((hproperties name).trans ((gathers_merged hys).properties name).symm)
  rw [merged, merged, htables, sortedNames_congr hrequired]

/-- What is gathered declares the names that the inputs declare. -/
theorem Gathers.contains_iff (h : Gathers m xs s) {name : String} :
    s.properties.contains name = true ↔ ∃ t ∈ xs, t.properties.contains name = true := by
  rw [Table.contains, h.properties, isSome_chosen_iff]

theorem Gathers.mem_required_iff (h : Gathers m xs s) {name : String} :
    name ∈ s.required ↔ ∃ t ∈ xs, name ∈ t.required := by
  rw [h.required, mem_sortedNames_iff, List.mem_flatMap]

section

variable (ha : Gathers m xs a) (hb : Gathers m ys b)
include ha hb

theorem admits_append_iff :
    m.Admits (xs ++ ys) ↔ m.Admits xs ∧ m.Admits ys ∧ m.Admits [a, b] := by
  have hpair : a.SharesNoProperty b ↔ ∀ s ∈ xs, ∀ t ∈ ys, s.SharesNoProperty t := by
    simp only [Schema.SharesNoProperty, ← Bool.not_eq_true, ha.contains_iff, hb.contains_iff]
    constructor
    · intro h s hs t ht name hdeclares hlater
      exact h name ⟨s, hs, hdeclares⟩ ⟨t, ht, hlater⟩
    · rintro h name ⟨s, hs, hdeclares⟩ ⟨t, ht, hlater⟩
      exact h s hs t ht name hdeclares hlater
  simp only [MergeStrategy.Admits, List.pairwise_append, List.pairwise_pair, ← hpair]
  exact ⟨fun h => ⟨fun hm => (h hm).1, fun hm => (h hm).2.1, fun hm => (h hm).2.2⟩,
    fun ⟨hx, hy, hab⟩ hm => ⟨hx hm, hy hm, hab hm⟩⟩

theorem merged_append (hxs : ∀ s ∈ xs, s.properties.Sorted) (hys : ∀ s ∈ ys, s.properties.Sorted) :
    merged m (xs ++ ys) = merged m [a, b] := by
  refine merged_congr (List.forall_mem_append.mpr ⟨hxs, hys⟩)
    (List.forall_mem_cons.mpr ⟨ha.sorted, List.forall_mem_singleton.mpr hb.sorted⟩)
    (fun name => ?_) fun name => ?_
  · rw [chosen_append, chosen, chosen, chosen, choice_none_right, ha.properties, hb.properties]
  · simp only [List.flatMap_append, List.flatMap_cons, List.flatMap_nil, List.append_nil,
      List.mem_append, List.mem_flatMap, ha.mem_required_iff, hb.mem_required_iff]

end

/-- How merges of `xs`, of `ys` and of both together are related. -/
structure MergeLaws (xs ys : List Schema) : Prop where
  /-- A list may be merged in two parts. -/
  append : ∀ m s, xs ++ ys ≠ [] → (mergeSchemas m (xs ++ ys) = .ok s ↔
    ∃ a b, mergeSchemas m xs = .ok a ∧ mergeSchemas m ys = .ok b ∧ mergeSchemas m [a, b] = .ok s)
  /-- Overwriting is keeping on the reversed list; neither fails. -/
  reverse : ∃ s, mergeSchemas .overwriteDuplicates xs = .ok s ∧
    mergeSchemas .keepExisting xs.reverse = .ok s
  /-- Duplicates are an error exactly where there are some. -/
  distinct : (∃ s, mergeSchemas .errorOnDuplicates xs = .ok s) ↔
    xs.Pairwise Schema.SharesNoProperty
  /-- Where there are none, the strategies agree. -/
  agree : ∀ s, mergeSchemas .errorOnDuplicates xs = .ok s → ∀ m, mergeSchemas m xs = .ok s
  properties : ∀ m s, xs ≠ [] → mergeSchemas m xs = .ok s →
    ∀ name, s.properties.contains name = true ↔ ∃ t ∈ xs, t.properties.contains name = true
  required : ∀ m s, xs ≠ [] → mergeSchemas m xs = .ok s →
    s.required.Pairwise (· < ·) ∧ ∀ name, name ∈ s.required ↔ ∃ t ∈ xs, name ∈ t.required

/-- **Merging composes, and the strategies differ only in what they choose.**  The properties of
    the inputs are in order, as those of every schema that was read. -/
theorem mergeSchemas_laws (hsorted : ∀ s ∈ xs ++ ys, s.properties.Sorted) : MergeLaws xs ys := by
  obtain ⟨hxs, hys⟩ := List.forall_mem_append.mp hsorted
  refine ⟨fun m s hne => ?_, ?_, ?_, fun s h m => ?_, fun m s _ h name => ?_, fun m s _ h => ?_⟩
  · rw [mergeSchemas_ok_iff hne hsorted]
    constructor
    · rintro ⟨hadmits, rfl⟩
      have hparts (hm : m = .errorOnDuplicates) := List.pairwise_append.mp (hadmits hm)
      obtain ⟨a, hmergeX⟩ := exists_mergeSchemas_ok hxs fun hm => (hparts hm).1
      obtain ⟨b, hmergeY⟩ := exists_mergeSchemas_ok hys fun hm => (hparts hm).2.1
      obtain ⟨_, ha⟩ := gathers_of_mergeSchemas hxs hmergeX
      obtain ⟨_, hb⟩ := gathers_of_mergeSchemas hys hmergeY
      refine ⟨a, b, hmergeX, hmergeY, (mergeSchemas_ok_iff (List.cons_ne_nil a [b]) ?_).mpr
        ⟨((admits_append_iff ha hb).mp hadmits).2.2, (merged_append ha hb hxs hys).symm⟩⟩
      exact List.forall_mem_cons.mpr ⟨ha.sorted, List.forall_mem_singleton.mpr hb.sorted⟩
    · rintro ⟨a, b, hmergeX, hmergeY, hpair⟩
      obtain ⟨hadmitsX, ha⟩ := gathers_of_mergeSchemas hxs hmergeX
      obtain ⟨hadmitsY, hb⟩ := gathers_of_mergeSchemas hys hmergeY
      obtain ⟨hadmits, rfl⟩ := (mergeSchemas_ok_iff (List.cons_ne_nil a [b])
        (List.forall_mem_cons.mpr ⟨ha.sorted, List.forall_mem_singleton.mpr hb.sorted⟩)).mp hpair
      exact ⟨(admits_append_iff ha hb).mpr ⟨hadmitsX, hadmitsY, hadmits⟩,
        merged_append ha hb hxs hys⟩
  · by_cases hne : xs = []
    · subst hne
      exact ⟨{}, rfl, rfl⟩
    · have hreversed : ∀ s ∈ xs.reverse, s.properties.Sorted :=
        fun s hs => hxs s (List.mem_reverse.mp hs)
      refine ⟨_, (mergeSchemas_ok_iff hne hxs).mpr ⟨nofun, rfl⟩,
        (mergeSchemas_ok_iff (mt List.reverse_eq_nil_iff.mp hne) hreversed).mpr ⟨nofun, ?_⟩⟩
      refine merged_congr hreversed hxs (fun name => chosen_reverse name xs) fun name => ?_
      simp only [List.mem_flatMap, List.mem_reverse]
  · constructor
    · rintro ⟨s, h⟩
      exact (gathers_of_mergeSchemas hxs h).1 rfl
    · exact fun h => exists_mergeSchemas_ok hxs fun _ => h
  · by_cases hne : xs = []
    · subst hne
      exact h
    · obtain ⟨hadmits, rfl⟩ := (mergeSchemas_ok_iff hne hxs).mp h
      refine (mergeSchemas_ok_iff hne hxs).mpr ⟨fun _ => hadmits rfl, ?_⟩
      exact merged_congr hxs hxs (fun name => chosen_of_pairwise (hadmits rfl)) fun _ => Iff.rfl
  · exact (gathers_of_mergeSchemas hxs h).2.contains_iff
  · obtain ⟨_, hs⟩ := gathers_of_mergeSchemas hxs h
    exact ⟨hs.required ▸ sortedNames_pairwise _, fun name => hs.mem_required_iff⟩

/-- Two schemas that both declare a size. -/
def partSchemas : List Schema :=
  [{ properties := ⟨[("id", .schema (.ofType "string")), ("size", .schema (.ofType "integer"))]⟩
     required := ["size", "id"] },
   { properties := ⟨[("color", .schema (.ofType "string")), ("size", .schema (.ofType "number"))]⟩
     required := ["color"] }]

/-- The laws hold of two schemas with a common property beside a third. -/
theorem partSchemas_laws :
    (∀ s ∈ partSchemas ++ [.ofType "object"], s.properties.Sorted) ∧
      MergeLaws partSchemas [.ofType "object"] :=
  have hsorted : ∀ s ∈ partSchemas ++ [.ofType "object"], s.properties.Sorted := by decide
  ⟨hsorted, mergeSchemas_laws hsorted⟩

end SchemaCatalog
