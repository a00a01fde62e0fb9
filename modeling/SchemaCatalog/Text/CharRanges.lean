/-
  Sets of characters
  ==================
  **Sets of code points, as increasing lists of ranges.**

  A property of the Unicode Character Database is data, and its table
  stands in a module named for it.  This module holds what a table is and
  how a character is looked up in it.
-/
namespace SchemaCatalog

/-- A set of code points: ranges with both ends included, in increasing order. -/
abbrev CharRanges := List (Nat × Nat)

namespace CharRanges

/-- Whether `code` lies in one of the ranges.  The search ends at the first range above it. -/
def has (code : Nat) : CharRanges → Bool
  | [] => false
  | (low, high) :: rest => if code < low then false else code ≤ high || has code rest

/-- The ranges are in order and do not touch. -/
def Increasing (r : CharRanges) : Prop :=
  (∀ p ∈ r, p.1 ≤ p.2) ∧ r.Pairwise (·.2 < ·.1)

/-- In a set in order the search finds exactly the members of the ranges. -/
theorem has_iff {r : CharRanges} (h : r.Increasing) (code : Nat) :
    has code r = true ↔ ∃ p ∈ r, p.1 ≤ code ∧ code ≤ p.2 := by
  induction r with
  | nil => simp [has]
  | cons p rest ih =>
    obtain ⟨low, high⟩ := p
    obtain ⟨hle, hpw⟩ := h
    have hrest : Increasing rest :=
      ⟨fun q hq => hle q (List.mem_cons_of_mem _ hq), (List.pairwise_cons.1 hpw).2⟩
    have hsep := (List.pairwise_cons.1 hpw).1
    simp only [has]
    split
    · -- below the first range there is nothing
      next hlt =>
      simp only [Bool.false_eq_true, false_iff, not_exists, not_and]
      intro q hq hql
      have h1 : low ≤ high := hle (low, high) (List.mem_cons_self ..)
      rcases List.mem_cons.1 hq with rfl | hq'
      · simp at hql; omega
      · have := hsep q hq'; simp at this; omega
    · next hge =>
      simp only [Bool.or_eq_true, decide_eq_true_eq, ih hrest, List.mem_cons]
      constructor
      · rintro (h | ⟨q, hq, h⟩)
        · exact ⟨(low, high), .inl rfl, by simp; omega, h⟩
        · exact ⟨q, .inr hq, h⟩
      · rintro ⟨q, rfl | hq, h⟩
        · exact .inl h.2
        · exact .inr ⟨q, hq, h⟩

end CharRanges

end SchemaCatalog
