/-
  Lines of a text
  ===============
  **A text divided at its line ends, and put together again.**

  Lines can be put together in two ways: with a line end after each of them,
  or only between them.  If no line holds a line end, both texts are divided
  into these lines again; in the second case the last line must not be
  empty, since a line end at the end of a text begins no further line.
-/
namespace SchemaCatalog.Text

/-- The lines of a text; a line end at its end begins no further line. -/
def linesOfChars : List Char → List (List Char)
  | [] => []
  | '\n' :: rest => [] :: linesOfChars rest
  | c :: rest =>
    match linesOfChars rest with
    | [] => [[c]]
    | line :: lines => (c :: line) :: lines

def lines (t : String) : List String := (linesOfChars t.toList).map String.ofList

/-- There is no line end in the text. -/
def OneLine (t : String) : Prop := '\n' ∉ t.toList

instance (t : String) : Decidable (OneLine t) := inferInstanceAs (Decidable ('\n' ∉ t.toList))

theorem lines_append {t : String} (ht : OneLine t) (rest : String) :
    lines (t ++ "\n" ++ rest) = t :: lines rest := by
  have hchars {l rest : List Char} (hl : '\n' ∉ l) :
      linesOfChars (l ++ '\n' :: rest) = l :: linesOfChars rest := by
    induction l with
    | nil => rfl
    | cons c l ih =>
      obtain ⟨hc, hl⟩ : c ≠ '\n' ∧ '\n' ∉ l := by simpa [eq_comm] using hl
      rw [List.cons_append, linesOfChars.eq_3 _ _ (fun h => hc h), ih hl]
  simp [lines, hchars ht]

theorem lines_eq_singleton {t : String} (ht : OneLine t) (hne : t ≠ "") : lines t = [t] := by
  have hchars {l : List Char} (hl : '\n' ∉ l) (hne : l ≠ []) : linesOfChars l = [l] := by
    induction l with
    | nil => exact absurd rfl hne
    | cons c l ih =>
      obtain ⟨hc, hl⟩ : c ≠ '\n' ∧ '\n' ∉ l := by simpa [eq_comm] using hl
      rw [linesOfChars.eq_3 _ _ (fun h => hc h)]
      by_cases hnil : l = []
      · simp [hnil, linesOfChars]
      · simp [ih hl hnil]
  have hne : t.toList ≠ [] := fun h => hne (by simpa using h)
  simp [lines, hchars ht hne]

/-- Lines that each end in a line end. -/
theorem lines_join {l : List String} (hl : ∀ t ∈ l, OneLine t) :
    lines (String.join (l.map (· ++ "\n"))) = l := by
  induction l with
  | nil => rfl
  | cons t l ih =>
    obtain ⟨ht, hl⟩ := List.forall_mem_cons.mp hl
    rw [List.map_cons, String.join_cons, lines_append ht, ih hl]

/-- Lines with line ends between them. -/
theorem lines_intercalate : ∀ {l : List String}, (∀ t ∈ l, OneLine t) →
    (∀ t ∈ l.getLast?, t ≠ "") → lines ("\n".intercalate l) = l
  | [], _, _ => rfl
  | [t], hl, hlast => by
    simpa using lines_eq_singleton (hl t (by simp)) (hlast t (by simp))
  | t :: t' :: l, hl, hlast => by
    obtain ⟨ht, hl⟩ := List.forall_mem_cons.mp hl
    rw [String.intercalate_cons_cons, lines_append ht,
      lines_intercalate hl (by simpa using hlast)]

end SchemaCatalog.Text
