/-
  Laws of tables
  ==============
  **What a look-up says about the entries, and how tables grow.**

  A table is read through `get?`; this module ties that view to the entries
  themselves, to the keys and to the number of entries.  A sorted table is
  determined by its look-ups (`Sorted.ext`), and a list of names in order by
  its members.

  `Extends t u` says that `u` answers every look-up that `t` answers, in the
  same way.  It is the order in which a table of definitions grows when
  nothing in it is ever replaced.
-/
import SchemaCatalog.Table

namespace SchemaCatalog

namespace Table

variable {α : Type}

/-! ## 1. Look-ups and entries -/

theorem mem_of_find? {name : String} {v : α} {l : List (String × α)}
    (h : find? name l = some v) : (name, v) ∈ l := by
  induction l with
  | nil => simp [find?] at h
  | cons e rest ih =>
    obtain ⟨k, w⟩ := e
    by_cases hk : name = k
    · subst hk
      simp only [find?, if_true, Option.some.injEq] at h
      subst h
      exact List.mem_cons_self
    · simp only [find?, if_neg hk] at h
      exact List.mem_cons_of_mem _ (ih h)

theorem find?_isSome_iff {name : String} {l : List (String × α)} :
    (find? name l).isSome ↔ name ∈ l.map (·.1) := by
  induction l with
  | nil => simp [find?]
  | cons e rest ih =>
    obtain ⟨k, w⟩ := e
    by_cases hk : name = k
    · simp [find?, hk]
    · rw [find?, if_neg hk, ih, List.map_cons, List.mem_cons]
      exact ⟨Or.inr, fun h => h.resolve_left hk⟩

/-- A look-up finds an entry of the table. -/
theorem mem_of_get? {t : Table α} {name : String} {v : α} (h : t.get? name = some v) :
    (name, v) ∈ t.entries :=
  mem_of_find? h

theorem mem_keys_iff {t : Table α} {name : String} : name ∈ t.keys ↔ t.contains name = true :=
  find?_isSome_iff.symm

theorem contains_iff {t : Table α} {name : String} :
    t.contains name = true ↔ ∃ v, t.get? name = some v :=
  Option.isSome_iff_exists

theorem contains_of_get? {t : Table α} {name : String} {v : α} (h : t.get? name = some v) :
    t.contains name = true :=
  contains_iff.mpr ⟨v, h⟩

theorem get?_eq_none_iff {t : Table α} {name : String} :
    t.get? name = none ↔ t.contains name = false := by
  rw [contains, Option.isSome_eq_false_iff, Option.isNone_iff_eq_none]

/-! ## 2. The number of entries -/

theorem length_insertEntry {name : String} {v : α} {l : List (String × α)}
    (h : name ∉ l.map (·.1)) : (insertEntry name v l).length = l.length + 1 := by
  induction l with
  | nil => rfl
  | cons e rest ih =>
    obtain ⟨k, w⟩ := e
    simp only [List.map_cons, List.mem_cons, not_or] at h
    obtain ⟨hk, hrest⟩ := h
    simp only [insertEntry, if_neg hk]
    split
    · rfl
    · simp [ih hrest]

/-- A new name makes a table larger by one. -/
theorem size_insert {t : Table α} {name : String} (v : α) (h : t.contains name = false) :
    (t.insert name v).size = t.size + 1 := by
  apply length_insertEntry
  intro hmem
  have hcontains : t.contains name = true := mem_keys_iff.mp hmem
  rw [h] at hcontains
  exact absurd hcontains (by decide)

/-! ## 3. Sorted tables are determined by their look-ups -/

theorem find?_of_sorted {l : List (String × α)} (h : l.Pairwise (·.1 < ·.1)) {e : String × α}
    (he : e ∈ l) : find? e.1 l = some e.2 := by
  induction l with
  | nil => cases he
  | cons e' rest ih =>
    obtain ⟨above, sorted⟩ := List.pairwise_cons.mp h
    rcases List.mem_cons.mp he with rfl | hrest
    · simp [find?]
    · have hne : e.1 ≠ e'.1 := by
        intro heq
        exact String.lt_irrefl e'.1 (heq ▸ above e hrest)
      rw [find?, if_neg hne]
      exact ih sorted hrest

/-- In a sorted table every entry is the one that a look-up finds. -/
theorem Sorted.get?_of_mem {t : Table α} (h : t.Sorted) {e : String × α} (he : e ∈ t.entries) :
    t.get? e.1 = some e.2 :=
  find?_of_sorted h he

/-- Two sorted lists of entries with the same members are equal. -/
theorem eq_of_sorted_of_mem_iff {l m : List (String × α)} (hl : l.Pairwise (·.1 < ·.1))
    (hm : m.Pairwise (·.1 < ·.1)) (h : ∀ e, e ∈ l ↔ e ∈ m) : l = m := by
  have hnodup {k : List (String × α)} (hk : k.Pairwise (·.1 < ·.1)) : k.Nodup := by
    refine hk.imp fun {a b} hlt heq => ?_
    subst heq
    exact String.lt_irrefl a.1 hlt
  refine List.Perm.eq_of_pairwise ?_ hl hm
    ((List.perm_ext_iff_of_nodup (hnodup hl) (hnodup hm)).mpr h)
  intro a b _ _ hab hba
  exact absurd (String.lt_trans hab hba) (String.lt_irrefl _)

/-- **Extensionality.**  Sorted tables that answer every look-up alike are equal. -/
theorem Sorted.ext {t u : Table α} (ht : t.Sorted) (hu : u.Sorted)
    (h : ∀ name, t.get? name = u.get? name) : t = u := by
  have hentries : t.entries = u.entries := by
    refine eq_of_sorted_of_mem_iff ht hu fun e => ⟨fun he => ?_, fun he => ?_⟩
    · exact mem_of_get? ((h e.1).symm.trans (ht.get?_of_mem he))
    · exact mem_of_get? ((h e.1).trans (hu.get?_of_mem he))
  cases t
  cases u
  exact congrArg Table.mk hentries

/-- Entries of different names can be put in in either order. -/
theorem Sorted.insert_comm {t : Table α} (h : t.Sorted) {j k : String} (hne : j ≠ k) (v w : α) :
    (t.insert j v).insert k w = (t.insert k w).insert j v := by
  refine ((h.insert j v).insert k w).ext ((h.insert k w).insert j v) fun name => ?_
  simp only [get?_insert]
  by_cases hname : name = k
  · subst hname
    rw [if_pos rfl, if_pos rfl, if_neg hne.symm]
  · rw [if_neg hname, if_neg hname]

/-! ## 4. Tables of lists -/

theorem find?_append (name : String) (l m : List (String × α)) :
    find? name (l ++ m) = (find? name l).or (find? name m) := by
  induction l with
  | nil => simp [find?]
  | cons e rest ih =>
    obtain ⟨k, v⟩ := e
    by_cases hk : name = k
    · simp [find?, hk]
    · simp only [List.cons_append, find?, if_neg hk]
      exact ih

/-- A filter by name keeps what it finds under the names that it keeps. -/
theorem find?_filter {p : String → Bool} {name : String} (h : p name = true)
    (l : List (String × α)) : find? name (l.filter fun e => p e.1) = find? name l := by
  induction l with
  | nil => rfl
  | cons e rest ih =>
    obtain ⟨k, v⟩ := e
    cases hk : p k with
    | true => simp [hk, find?, ih]
    | false =>
      have hne : name ≠ k := by
        rintro rfl
        rw [h] at hk
        cases hk
      simp [hk, find?, hne, ih]

/-- A look-up finds the first of the entries under the name. -/
theorem find?_eq_head? (name : String) (l : List (String × α)) :
    find? name l = (l.filter (·.1 = name)).head?.map (·.2) := by
  induction l with
  | nil => rfl
  | cons e rest ih =>
    obtain ⟨k, v⟩ := e
    by_cases hk : name = k
    · simp [find?, hk]
    · simp [find?, hk, Ne.symm hk, ih]

theorem find?_eq_none_iff {name : String} {l : List (String × α)} :
    find? name l = none ↔ name ∉ l.map (·.1) := by
  rw [← Option.not_isSome_iff_eq_none, find?_isSome_iff]

/-- In a list without repeated names every entry is the one that a look-up finds. -/
theorem find?_eq_some_iff {l : List (String × α)} (h : (l.map (·.1)).Nodup) {name : String}
    {v : α} : find? name l = some v ↔ (name, v) ∈ l := by
  refine ⟨mem_of_find?, fun hmem => ?_⟩
  induction l with
  | nil => cases hmem
  | cons e rest ih =>
    obtain ⟨k, w⟩ := e
    obtain ⟨hfresh, hnodup⟩ := List.nodup_cons.mp h
    rcases List.mem_cons.mp hmem with heq | hrest
    · cases heq
      simp [find?]
    · have hne : name ≠ k := by
        rintro rfl
        exact hfresh (List.mem_map.mpr ⟨(name, v), hrest, rfl⟩)
      rw [find?, if_neg hne]
      exact ih hnodup hrest

/-- In a list without repeated names one entry has the name that is found. -/
theorem filter_eq_singleton {l : List (String × α)} (hnodup : (l.map (·.1)).Nodup) {name : String}
    {v : α} (h : find? name l = some v) : l.filter (·.1 = name) = [(name, v)] := by
  induction l with
  | nil => cases h
  | cons e rest ih =>
    obtain ⟨k, w⟩ := e
    obtain ⟨hfresh, hnodup⟩ := List.nodup_cons.mp hnodup
    by_cases hk : name = k
    · subst hk
      obtain rfl : w = v := by simpa [find?] using h
      have hrest : rest.filter (·.1 = name) = [] := by
        refine List.filter_eq_nil_iff.mpr fun e he heq => hfresh ?_
        exact List.mem_map.mpr ⟨e, he, of_decide_eq_true heq⟩
      simp [hrest]
    · rw [find?, if_neg hk] at h
      simpa [Ne.symm hk] using ih hnodup h

theorem find?_reverse {l : List (String × α)} (h : (l.map (·.1)).Nodup) (name : String) :
    find? name l.reverse = find? name l := by
  have hreverse : (l.reverse.map (·.1)).Nodup := by
    rw [List.map_reverse]
    exact List.pairwise_reverse.mpr (h.imp Ne.symm)
  refine Option.ext fun v => ?_
  rw [find?_eq_some_iff hreverse, find?_eq_some_iff h, List.mem_reverse]

/-- A table that is filled from a list answers with the last entry of a name. -/
theorem get?_foldl_insert (l : List (String × α)) (t : Table α) (name : String) :
    (l.foldl (fun t e => t.insert e.1 e.2) t).get? name =
      (find? name l.reverse).or (t.get? name) := by
  induction l generalizing t with
  | nil => rfl
  | cons e rest ih =>
    obtain ⟨k, v⟩ := e
    rw [List.foldl_cons, ih, List.reverse_cons, find?_append, Option.or_assoc, get?_insert]
    by_cases hk : name = k
    · simp [find?, hk]
    · simp [find?, hk]

/-- **The last entry of a name counts.** -/
theorem get?_ofList_eq_getLast? (l : List (String × α)) (name : String) :
    (ofList l).get? name = (l.filter (·.1 = name)).getLast?.map (·.2) := by
  rw [ofList, get?_foldl_insert, get?_empty, Option.or_none, find?_eq_head?, List.filter_reverse,
    List.head?_reverse]

theorem get?_ofList {l : List (String × α)} (h : (l.map (·.1)).Nodup) (name : String) :
    (ofList l).get? name = find? name l := by
  rw [ofList, get?_foldl_insert, find?_reverse h, get?_empty, Option.or_none]

theorem mem_of_mem_foldl_insert {l : List (String × α)} {t : Table α} {e : String × α}
    (h : e ∈ (l.foldl (fun t e => t.insert e.1 e.2) t).entries) : e ∈ l ∨ e ∈ t.entries := by
  induction l generalizing t with
  | nil => exact Or.inr h
  | cons e' rest ih =>
    rcases ih h with hrest | hinsert
    · exact Or.inl (List.mem_cons_of_mem _ hrest)
    · rcases mem_insertEntry hinsert with rfl | hold
      · exact Or.inl List.mem_cons_self
      · exact Or.inr hold

/-- The entries of the table of a list come from the list. -/
theorem mem_of_mem_ofList {l : List (String × α)} {e : String × α}
    (h : e ∈ (ofList l).entries) : e ∈ l :=
  (mem_of_mem_foldl_insert h).resolve_right List.not_mem_nil

theorem mem_keys_insert_iff {t : Table α} {k name : String} {v : α} :
    name ∈ (t.insert k v).keys ↔ name = k ∨ name ∈ t.keys := by
  rw [mem_keys_iff, mem_keys_iff, contains, contains, get?_insert]
  by_cases hname : name = k
  · simp [hname]
  · simp [hname]

theorem mem_keys_foldl_insert_iff {l : List (String × α)} {t : Table α} {name : String} :
    name ∈ (l.foldl (fun t e => t.insert e.1 e.2) t).keys ↔ name ∈ l.map (·.1) ∨ name ∈ t.keys := by
  induction l generalizing t with
  | nil => simp
  | cons e rest ih =>
    rw [List.foldl_cons, ih, mem_keys_insert_iff, List.map_cons, List.mem_cons]
    exact or_left_comm.trans or_assoc.symm

/-- The names of the table of a list are those of the list. -/
theorem mem_keys_ofList_iff {l : List (String × α)} {name : String} :
    name ∈ (ofList l).keys ↔ name ∈ l.map (·.1) := by
  rw [ofList, mem_keys_foldl_insert_iff]
  exact or_iff_left List.not_mem_nil

theorem Sorted.nodup_keys {t : Table α} (h : t.Sorted) : t.keys.Nodup := by
  refine List.pairwise_map.mpr (h.imp fun {a b} hlt heq => ?_)
  rw [heq] at hlt
  exact String.lt_irrefl _ hlt

/-- A sorted table is the table of its entries. -/
theorem Sorted.ofList_entries {t : Table α} (h : t.Sorted) : ofList t.entries = t :=
  (sorted_ofList t.entries).ext h fun name => get?_ofList h.nodup_keys name

/-! ## 5. Mapping -/

theorem isEmpty_map {β : Type} (f : α → β) (t : Table α) : (t.map f).isEmpty = t.isEmpty :=
  List.isEmpty_map

theorem sorted_map_iff {β : Type} {f : α → β} {t : Table α} : (t.map f).Sorted ↔ t.Sorted := by
  rw [Sorted, map, List.pairwise_map]
  exact Iff.rfl

/-- A map that keeps every value keeps the table. -/
theorem map_eq_self {f : α → α} {t : Table α} (h : ∀ e ∈ t.entries, f e.2 = e.2) :
    t.map f = t := by
  have hentries : (t.entries.map fun e => (e.1, f e.2)) = t.entries.map id :=
    List.map_congr_left fun e he => by
      rw [h e he]
      rfl
  rw [map, hentries, List.map_id]

/-! ## 6. Growth -/

/-- Whether `u` has every entry of `t`, under the same name. -/
def Extends (t u : Table α) : Prop := ∀ name v, t.get? name = some v → u.get? name = some v

namespace Extends

theorem refl (t : Table α) : t.Extends t := fun _ _ h => h

theorem trans {t u v : Table α} (h : t.Extends u) (h' : u.Extends v) : t.Extends v :=
  fun name w hw => h' name w (h name w hw)

theorem contains {t u : Table α} (h : t.Extends u) {name : String}
    (hname : t.contains name = true) : u.contains name = true := by
  obtain ⟨v, hv⟩ := contains_iff.mp hname
  exact contains_of_get? (h name v hv)

/-- A name that is free later was free before. -/
theorem free {t u : Table α} (h : t.Extends u) {name : String} (hname : u.contains name = false) :
    t.contains name = false := by
  rw [← Bool.not_eq_true] at hname ⊢
  exact mt h.contains hname

end Extends

theorem mem_insertEntry_of_mem {name : String} {v : α} {l : List (String × α)}
    (h : name ∉ l.map (·.1)) {e : String × α} (he : e ∈ l) : e ∈ insertEntry name v l := by
  induction l with
  | nil => cases he
  | cons e' rest ih =>
    obtain ⟨k, w⟩ := e'
    simp only [List.map_cons, List.mem_cons, not_or] at h
    obtain ⟨hk, hrest⟩ := h
    simp only [insertEntry, if_neg hk]
    split
    · exact List.mem_cons_of_mem _ he
    · rcases List.mem_cons.mp he with rfl | he
      · exact List.mem_cons_self
      · exact List.mem_cons_of_mem _ (ih hrest he)

/-- An entry under a new name leaves the other entries where they are. -/
theorem entries_subset_insert {t : Table α} {name : String} (v : α)
    (h : t.contains name = false) : t.entries ⊆ (t.insert name v).entries := by
  have hfree : name ∉ t.keys := by
    rw [mem_keys_iff, h]
    exact Bool.false_ne_true
  intro e he
  exact mem_insertEntry_of_mem hfree he

/-- Nothing is replaced by an entry under a new name. -/
theorem extends_insert {t : Table α} {name : String} (v : α) (h : t.contains name = false) :
    t.Extends (t.insert name v) := by
  intro k w hk
  have hne : k ≠ name := by
    rintro rfl
    rw [contains_of_get? hk] at h
    exact absurd h (by decide)
  rw [get?_insert, if_neg hne]
  exact hk

theorem get?_insertIfNew (t : Table α) (name k : String) (v : α) :
    (t.insertIfNew name v).get? k = (t.get? k).or (if k = name then some v else none) := by
  unfold insertIfNew
  split
  · next h =>
    by_cases hk : k = name
    · obtain ⟨w, hw⟩ := contains_iff.mp h
      rw [hk, hw, Option.some_or]
    · rw [if_neg hk, Option.or_none]
  · next h =>
    rw [get?_insert]
    by_cases hk : k = name
    · rw [hk, get?_eq_none_iff.mpr (Bool.eq_false_iff.mpr h), Option.none_or]
    · rw [if_neg hk, if_neg hk, Option.or_none]

theorem Sorted.insertIfNew {t : Table α} (h : t.Sorted) (name : String) (v : α) :
    (t.insertIfNew name v).Sorted := by
  unfold Table.insertIfNew
  split
  · exact h
  · exact h.insert name v

theorem extends_insertIfNew (t : Table α) (name : String) (v : α) :
    t.Extends (t.insertIfNew name v) := by
  unfold insertIfNew
  split
  · exact Extends.refl t
  · next h => exact extends_insert v (Bool.eq_false_iff.mpr h)

theorem contains_insertIfNew (t : Table α) (name : String) (v : α) :
    (t.insertIfNew name v).contains name = true := by
  unfold insertIfNew
  split
  · next h => exact h
  · exact contains_of_get? (by rw [get?_insert, if_pos rfl])

end Table

/-! ## 7. Lists of names -/

theorem mem_sortedNames_iff {l : List String} {name : String} :
    name ∈ sortedNames l ↔ name ∈ l := by
  rw [sortedNames, Table.mem_keys_ofList_iff]
  simp

theorem sortedNames_pairwise (l : List String) : (sortedNames l).Pairwise (· < ·) :=
  List.pairwise_map.mpr (Table.sorted_ofList _)

/-- Two lists of names in order are equal if they have the same members. -/
theorem eq_of_pairwise_lt {l m : List String} (hl : l.Pairwise (· < ·)) (hm : m.Pairwise (· < ·))
    (h : ∀ name, name ∈ l ↔ name ∈ m) : l = m := by
  have hnodup {k : List String} (hk : k.Pairwise (· < ·)) : k.Nodup := by
    refine hk.imp fun {a b} hlt heq => ?_
    subst heq
    exact String.lt_irrefl a hlt
  refine List.Perm.eq_of_pairwise ?_ hl hm
    ((List.perm_ext_iff_of_nodup (hnodup hl) (hnodup hm)).mpr h)
  intro a b _ _ hab hba
  exact absurd (String.lt_trans hab hba) (String.lt_irrefl _)

theorem sortedNames_congr {l m : List String} (h : ∀ name, name ∈ l ↔ name ∈ m) :
    sortedNames l = sortedNames m := by
  refine eq_of_pairwise_lt (sortedNames_pairwise l) (sortedNames_pairwise m) fun name => ?_
  rw [mem_sortedNames_iff, mem_sortedNames_iff, h]

end SchemaCatalog
