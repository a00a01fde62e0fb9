/-
  Registries read out in any order
  ================================
  **What a registry gives does not depend on the order in which its entries come.**

  Whoever keeps the entities in a map without an order gets its entries in any order
  at all: a *listing* of the registry is a permutation of its entries.  Names and entities
  are then put in the order of the names, suggestions in that of their scores and, where these
  are equal, of the names, and the references that dangle in that of their two ends.  Each of
  these orders leaves no choice among the things that it is applied to, so the results are those
  of the registry (`readsOut_of_perm`).
-/
import SchemaCatalog.Publication
import SchemaCatalog.Proofs.ReferenceGraph.Cycles

namespace SchemaCatalog

/-! ## 1. Sorting -/

/-- An order in which no two members of a list come first leaves one way to sort the list. -/
theorem mergeSort_eq_of_perm {α : Type} {le : α → α → Bool} {l m : List α}
    (antisymm : ∀ a ∈ m, ∀ b ∈ m, le a b → le b a → a = b)
    (trans : ∀ a b c, le a b → le b c → le a c) (total : ∀ a b, le a b || le b a)
    (hperm : l.Perm m) (hsorted : m.Pairwise fun a b => le a b) : l.mergeSort le = m := by
  have hsort := List.mergeSort_perm l le
  refine List.Perm.eq_of_pairwise (fun a b ha hb => ?_) (List.pairwise_mergeSort trans total l)
    hsorted (hsort.trans hperm)
  exact antisymm a (hperm.subset (hsort.subset ha)) b hb

/-- Whether the first of two references that dangle can stand before the second: they come by
    source and then by target. -/
def DanglingReference.le (a b : DanglingReference) : Bool :=
  decide (a.source < b.source) || (a.source == b.source && decide (a.target ≤ b.target))

theorem DanglingReference.le_of_precedes {a b : DanglingReference}
    (h : ReferenceGraph.Precedes a b) : a.le b := by
  simp only [le, Bool.or_eq_true, Bool.and_eq_true, decide_eq_true_eq, beq_iff_eq]
  exact h.imp id (And.imp id Std.le_of_lt)

namespace Registry

theorem precedes_trans (a b c : Int × String) (hab : precedes a b) (hbc : precedes b c) :
    precedes a c := by
  simp only [precedes, Bool.or_eq_true, Bool.and_eq_true, decide_eq_true_eq, beq_iff_eq] at *
  rcases hab with hab | ⟨hab, hab'⟩ <;> rcases hbc with hbc | ⟨hbc, hbc'⟩
  · exact Or.inl (by omega)
  · exact Or.inl (by omega)
  · exact Or.inl (by omega)
  · exact Or.inr ⟨by omega, String.le_trans hab' hbc'⟩

theorem precedes_total (a b : Int × String) : precedes a b || precedes b a := by
  simp only [precedes, Bool.or_eq_true, Bool.and_eq_true, decide_eq_true_eq, beq_iff_eq]
  rcases Int.lt_trichotomy a.1 b.1 with h | h | h
  · exact Or.inr (Or.inl h)
  · rcases String.le_total a.2 b.2 with h' | h'
    · exact Or.inl (Or.inr ⟨h, h'⟩)
    · exact Or.inr (Or.inr ⟨h.symm, h'⟩)
  · exact Or.inl (Or.inl h)

theorem precedes_antisymm {a b : Int × String} (hab : precedes a b) (hba : precedes b a) :
    a = b := by
  simp only [precedes, Bool.or_eq_true, Bool.and_eq_true, decide_eq_true_eq, beq_iff_eq] at hab hba
  rcases hab with hab | ⟨hab, hab'⟩ <;> rcases hba with hba | ⟨hba, hba'⟩
  · omega
  · omega
  · omega
  · exact Prod.ext hab (String.le_antisymm hab' hba')

/-! ## 2. Listings -/

/-- The names, in order. -/
def listedNames (l : List (String × Entity)) : List String :=
  (l.map (·.1)).mergeSort fun a b => a ≤ b

/-- The entities, in the order of their names. -/
def listedEntities (l : List (String × Entity)) : List Entity :=
  (l.map (·.2)).mergeSort fun a b => a.name ≤ b.name

/-- At most `limit` of the names to which `score` gives a score for the query, the best first. -/
def listedSuggestions (score : String → String → Option Int) (l : List (String × Entity))
    (query : String) (limit : Nat) : List String :=
  let scored := (l.map (·.1)).filterMap fun name => (score query name).map (·, name)
  ((scored.mergeSort precedes).take limit).map (·.2)

/-- The graph of the entities in the order of their names, with the references that dangle in
    order. -/
def listedGraph (o : ResolverOptions) (l : List (String × Entity)) : Outcome ReferenceGraph := do
  let entries := (listedEntities l).map fun e => (e.name, e)
  let g ← ReferenceGraph.addEntities o (Table.ofList entries) {} entries
  return { g with dangling := g.dangling.mergeSort DanglingReference.le }

/-- The published schemas of the entities in the order of their names, in one table. -/
def listedComponents (o : PublishOptions) (l : List (String × Entity)) :
    Outcome (Table Schema) := do
  let c ← collectPublished o {} (listedEntities l)
  return c.finalize o.stripNested

/-- **Everything read out of a listing is what the registry gives.** -/
structure ReadsOut (r : Registry) (l : List (String × Entity)) : Prop where
  names : listedNames l = r.keys
  entities : listedEntities l = r.values
  suggestions : ∀ score query limit,
    listedSuggestions score l query limit = listedSuggestions score r.entries query limit
  suggest : ∀ query limit,
    listedSuggestions Subsequence.score? l query limit = r.suggest query limit
  graph : ∀ o, listedGraph o l = ReferenceGraph.ofRegistry o r
  components : ∀ o, listedComponents o l = r.components o none

variable {r : Registry} {l : List (String × Entity)}

theorem le_trans_decide (a b c : String) (hab : decide (a ≤ b)) (hbc : decide (b ≤ c)) :
    decide (a ≤ c) :=
  decide_eq_true (String.le_trans (of_decide_eq_true hab) (of_decide_eq_true hbc))

theorem le_total_decide (a b : String) : decide (a ≤ b) || decide (b ≤ a) := by
  simpa using String.le_total a b

theorem listedNames_of_perm (hr : r.Sorted) (hl : l.Perm r.entries) : listedNames l = r.keys := by
  have hsorted : r.keys.Pairwise fun a b => decide (a ≤ b) :=
    List.pairwise_map.mpr (hr.imp fun hlt => decide_eq_true (Std.le_of_lt hlt))
  refine mergeSort_eq_of_perm (fun a _ b _ hab hba => ?_) le_trans_decide le_total_decide
    (hl.map (·.1)) hsorted
  exact String.le_antisymm (of_decide_eq_true hab) (of_decide_eq_true hba)

/-- The entities stand in the order of the names that they carry. -/
theorem Indexed.values_pairwise (hr : Indexed r) :
    r.values.Pairwise fun a b => a.name < b.name := by
  refine List.pairwise_map.mpr (List.Pairwise.imp_of_mem ?_ hr.sorted)
  intro a b ha hb hlt
  rwa [hr.name_eq a ha, hr.name_eq b hb]

theorem listedEntities_of_perm (hr : Indexed r) (hl : l.Perm r.entries) :
    listedEntities l = r.values := by
  refine mergeSort_eq_of_perm (fun a ha b hb hab hba => ?_)
    (fun a b c => le_trans_decide a.name b.name c.name) (fun a b => le_total_decide a.name b.name)
    (hl.map (·.2)) (hr.values_pairwise.imp fun hlt => decide_eq_true (Std.le_of_lt hlt))
  have hname : a.name = b.name :=
    String.le_antisymm (of_decide_eq_true hab) (of_decide_eq_true hba)
  have hsame := hr.get?_of_mem_values ha
  rw [hname, hr.get?_of_mem_values hb] at hsame
  exact (Option.some.inj hsame).symm

theorem listedSuggestions_of_perm {m : List (String × Entity)} (hl : l.Perm m)
    (score : String → String → Option Int) (query : String) (limit : Nat) :
    listedSuggestions score l query limit = listedSuggestions score m query limit := by
  have hscored := (hl.map (·.1)).filterMap fun name => (score query name).map (·, name)
  have hsorted := mergeSort_eq_of_perm (fun _ _ _ _ => precedes_antisymm) precedes_trans
    precedes_total (hscored.trans (List.mergeSort_perm _ precedes).symm)
    (List.pairwise_mergeSort precedes_trans precedes_total _)
  rw [listedSuggestions, listedSuggestions, hsorted]

/-- Every entity stands under the name that it carries. -/
theorem Indexed.map_values (hr : Indexed r) : (r.values.map fun e => (e.name, e)) = r.entries := by
  have hentry : ∀ entry ∈ r.entries, (entry.2.name, entry.2) = entry := fun entry h =>
    Prod.ext (hr.name_eq entry h) rfl
  rw [Table.values, List.map_map]
  exact (List.map_congr_left hentry).trans (List.map_id _)

theorem listedGraph_of_perm (hr : Indexed r) (hl : l.Perm r.entries) (o : ResolverOptions) :
    listedGraph o l = ReferenceGraph.ofRegistry o r := by
  simp only [listedGraph, listedEntities_of_perm hr hl, hr.map_values, hr.sorted.ofList_entries]
  cases hgraph : ReferenceGraph.addEntities o r {} r.entries with
  | error e =>
    rw [ReferenceGraph.ofRegistry, hgraph]
    rfl
  | ok g =>
    -- the references that dangle are found in order
    have hdangling : g.dangling.Pairwise fun a b => a.le b :=
      (ReferenceGraph.dangling_pairwise hr hgraph).imp DanglingReference.le_of_precedes
    have hsorted := List.mergeSort_of_pairwise hdangling
    show Except.ok { g with dangling := g.dangling.mergeSort DanglingReference.le } = _
    rw [hsorted, ReferenceGraph.ofRegistry, hgraph]

theorem listedComponents_of_perm (hr : Indexed r) (hl : l.Perm r.entries) (o : PublishOptions) :
    listedComponents o l = r.components o none := by
  rw [listedComponents, listedEntities_of_perm hr hl]
  rfl

/-- **Whatever the order of the listing, it reads as the registry.** -/
theorem readsOut_of_perm (hr : Indexed r) (hl : l.Perm r.entries) : r.ReadsOut l where
  names := listedNames_of_perm hr.sorted hl
  entities := listedEntities_of_perm hr hl
  suggestions := listedSuggestions_of_perm hl
  suggest := listedSuggestions_of_perm hl Subsequence.score?
  graph := listedGraph_of_perm hr hl
  components := listedComponents_of_perm hr hl

end Registry

end SchemaCatalog
