/-
  Tables
  ======
  **Finite maps from names, kept in the order of the names.**

  Properties, definitions, registered entities and the members of a JSON
  object are all finite maps whose order shows in every text written from
  them: the order of the code points of the names.  A `Table` is the list of its entries
  in that order.  The order itself is not part of the type, because a table
  also occurs inside the recursive type of schemas; it is the predicate
  `Table.Sorted`, which `empty` has and `insert`, `erase`, `map` and
  `ofList` keep.

  Everything about a table is read through `get?`; `get?_insert` and
  `get?_erase` say what the two updates do to it.
-/
namespace SchemaCatalog

/-- A finite map from names to `α`, as its entries in the order of the names. -/
structure Table (α : Type) where
  entries : List (String × α) := []
deriving Repr

namespace Table

variable {α β : Type}

/-- The table without entries. -/
def empty : Table α := {}

instance : Inhabited (Table α) := ⟨empty⟩

instance [DecidableEq α] : DecidableEq (Table α) := fun s t =>
  decidable_of_iff (s.entries = t.entries)
    ⟨fun h => by cases s; cases t; simp_all, fun h => h ▸ rfl⟩

/-- The value under `name` in a list of entries. -/
def find? (name : String) : List (String × α) → Option α
  | [] => none
  | (k, v) :: rest => if name = k then some v else find? name rest

/-- Puts `value` under `name` into a list of entries, at its place in the order. -/
def insertEntry (name : String) (value : α) : List (String × α) → List (String × α)
  | [] => [(name, value)]
  | (k, v) :: rest =>
    if name = k then (name, value) :: rest
    else if name < k then (name, value) :: (k, v) :: rest
    else (k, v) :: insertEntry name value rest

/-- The value under `name`. -/
def get? (t : Table α) (name : String) : Option α := find? name t.entries

/-- Whether the table has an entry under `name`. -/
def contains (t : Table α) (name : String) : Bool := (t.get? name).isSome

/-- Puts `value` under `name`, in place of what was there. -/
def insert (t : Table α) (name : String) (value : α) : Table α :=
  ⟨insertEntry name value t.entries⟩

/-- Puts `value` under `name` unless there is an entry already. -/
def insertIfNew (t : Table α) (name : String) (value : α) : Table α :=
  if t.contains name then t else t.insert name value

/-- Removes the entry under `name`. -/
def erase (t : Table α) (name : String) : Table α := ⟨t.entries.filter (·.1 ≠ name)⟩

/-- The table of a list of entries; of two entries under one name the later one counts. -/
def ofList (l : List (String × α)) : Table α :=
  l.foldl (fun t e => t.insert e.1 e.2) empty

/-- The names, in order. -/
def keys (t : Table α) : List String := t.entries.map (·.1)

/-- The values, in the order of their names. -/
def values (t : Table α) : List α := t.entries.map (·.2)

def size (t : Table α) : Nat := t.entries.length

def isEmpty (t : Table α) : Bool := t.entries.isEmpty

/-- Applies `f` to every value. -/
def map (f : α → β) (t : Table α) : Table β := ⟨t.entries.map fun e => (e.1, f e.2)⟩

/-- Keeps the entries that satisfy `p`. -/
def filter (p : String → α → Bool) (t : Table α) : Table α := ⟨t.entries.filter fun e => p e.1 e.2⟩

/-- A table is sorted when the names of its entries increase, so that no name occurs twice. -/
def Sorted (t : Table α) : Prop := t.entries.Pairwise (·.1 < ·.1)

instance (t : Table α) : Decidable t.Sorted :=
  inferInstanceAs (Decidable (t.entries.Pairwise (·.1 < ·.1)))

/-! ### What the updates do to `get?` -/

theorem find?_insertEntry (name k : String) (v : α) (l : List (String × α)) :
    find? k (insertEntry name v l) = if k = name then some v else find? k l := by
  induction l with
  | nil => simp [insertEntry, find?]
  | cons e rest ih =>
    obtain ⟨k', v'⟩ := e
    simp only [insertEntry]
    split
    · -- the old entry under the same name goes
      next h => subst h; by_cases hk : k = name <;> simp [find?, hk]
    · split
      · simp [find?]
      · next h _ =>
        by_cases hk : k = k'
        · subst hk; simp [find?, Ne.symm h]
        · simp [find?, hk, ih]

@[simp] theorem get?_insert (t : Table α) (name k : String) (v : α) :
    (t.insert name v).get? k = if k = name then some v else t.get? k :=
  find?_insertEntry name k v t.entries

@[simp] theorem get?_empty (k : String) : (empty : Table α).get? k = none := rfl

theorem find?_filter_ne (name k : String) (l : List (String × α)) :
    find? k (l.filter (·.1 ≠ name)) = if k = name then none else find? k l := by
  induction l with
  | nil => simp [find?]
  | cons e rest ih =>
    obtain ⟨k', v'⟩ := e
    by_cases hk : k' = name
    · subst hk
      by_cases h : k = k' <;> simp_all [find?]
    · by_cases h : k = k'
      · subst h; simp [find?, hk]
      · simp_all [find?]

@[simp] theorem get?_erase (t : Table α) (name k : String) :
    (t.erase name).get? k = if k = name then none else t.get? k :=
  find?_filter_ne name k t.entries

theorem find?_map (f : α → β) (k : String) (l : List (String × α)) :
    find? k (l.map fun e => (e.1, f e.2)) = (find? k l).map f := by
  induction l with
  | nil => rfl
  | cons e rest ih => by_cases h : k = e.1 <;> simp [find?, h, ih]

@[simp] theorem get?_map (f : α → β) (t : Table α) (k : String) :
    (t.map f).get? k = (t.get? k).map f :=
  find?_map f k t.entries

/-! ### The order of the entries -/

theorem lt_of_ne_of_not_lt {a b : String} (hne : a ≠ b) (h : ¬ a < b) : b < a := by
  rcases Classical.em (b < a) with h' | h'
  · exact h'
  · exact absurd (String.le_antisymm (String.not_lt.1 h') (String.not_lt.1 h)) hne

/-- An entry of the new list is the one put in or an old one. -/
theorem mem_insertEntry {name : String} {v : α} {l : List (String × α)} {e : String × α}
    (h : e ∈ insertEntry name v l) : e = (name, v) ∨ e ∈ l := by
  induction l with
  | nil => simpa [insertEntry] using h
  | cons e' rest ih =>
    obtain ⟨k', v'⟩ := e'
    simp only [insertEntry] at h
    split at h
    · grind
    · split at h
      · grind
      · grind

theorem Sorted.insert {t : Table α} (h : t.Sorted) (name : String) (v : α) :
    (t.insert name v).Sorted := by
  obtain ⟨l⟩ := t
  show (insertEntry name v l).Pairwise (·.1 < ·.1)
  change l.Pairwise (·.1 < ·.1) at h
  induction l with
  | nil => simp [insertEntry]
  | cons e rest ih =>
    obtain ⟨k, w⟩ := e
    obtain ⟨above, sorted⟩ := List.pairwise_cons.1 h
    simp only [insertEntry]
    split
    · next heq => subst heq; exact List.pairwise_cons.2 ⟨above, sorted⟩
    · next hne =>
      split
      · next hlt =>
        refine List.pairwise_cons.2 ⟨fun e he => ?_, h⟩
        rcases List.mem_cons.1 he with rfl | he
        · exact hlt
        · exact String.lt_trans hlt (above e he)
      · next hlt =>
        refine List.pairwise_cons.2 ⟨fun e he => ?_, ih sorted⟩
        rcases mem_insertEntry he with rfl | he
        · exact lt_of_ne_of_not_lt hne hlt
        · exact above e he

theorem Sorted.erase {t : Table α} (h : t.Sorted) (name : String) : (t.erase name).Sorted :=
  List.Pairwise.filter _ h

theorem Sorted.map {t : Table α} (h : t.Sorted) (f : α → β) : (t.map f).Sorted :=
  List.pairwise_map.2 h

theorem sorted_ofList (l : List (String × α)) : (ofList l).Sorted := by
  suffices ∀ t : Table α, t.Sorted → (l.foldl (fun t e => t.insert e.1 e.2) t).Sorted from
    this empty List.Pairwise.nil
  induction l with
  | nil => exact fun _ h => h
  | cons e rest ih => exact fun t h => ih _ (h.insert e.1 e.2)

end Table

/-- The names in order, each once. -/
def sortedNames (l : List String) : List String :=
  (Table.ofList (l.map fun name => (name, ()))).keys

end SchemaCatalog
