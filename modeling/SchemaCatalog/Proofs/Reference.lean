/-
  Reference tokens and their prefixes
  ===================================
  **A token with a prefix is the prefix followed by the name.**

  A token that has been carried over to a prefix is left alone by the next
  time, unless it begins with the prefix that it came from as well
  (`retargetToken_target_append_iff`).  If neither of two prefixes begins with the
  other, no token has both, and every token is carried over once
  (`retargetToken_retargetToken`).  The way back restores every token that had the first prefix,
  whichever two prefixes they are (`retargetToken_back`).
-/
import SchemaCatalog.Reference

namespace SchemaCatalog

theorem afterStart?_eq_some_iff {start l rest : List Char} :
    afterStart? start l = some rest ↔ l = start ++ rest := by
  induction start generalizing l with
  | nil => simp only [afterStart?, Option.some.injEq, List.nil_append]
  | cons c start ih =>
    cases l with
    | nil => simp [afterStart?]
    | cons d l =>
      by_cases hcd : c = d
      · subst hcd
        simp only [afterStart?, if_true, List.cons_append, List.cons.injEq, true_and]
        exact ih
      · simp [afterStart?, hcd, Ne.symm hcd]

/-- What follows a prefix is what the token appends to it. -/
theorem stripPrefix?_eq_some_iff {token start name : String} :
    stripPrefix? token start = some name ↔ token = start ++ name := by
  rw [stripPrefix?, Option.map_eq_some_iff]
  constructor
  · rintro ⟨rest, hrest, rfl⟩
    rw [afterStart?_eq_some_iff] at hrest
    apply String.ext
    rw [String.toList_append, String.toList_ofList]
    exact hrest
  · rintro rfl
    refine ⟨name.toList, ?_, String.ofList_toList⟩
    rw [afterStart?_eq_some_iff, String.toList_append]

/-- Neither of two prefixes begins with the other. -/
def Diverge (a b : String) : Prop := ¬ a.toList <+: b.toList ∧ ¬ b.toList <+: a.toList

instance (a b : String) : Decidable (Diverge a b) := inferInstanceAs (Decidable (_ ∧ _))

/-- A token has at most one of two prefixes that diverge. -/
theorem Diverge.append_ne {a b : String} (h : Diverge a b) (name rest : String) :
    b ++ name ≠ a ++ rest := by
  intro heq
  have ha : a.toList <+: (b ++ name).toList := by
    rw [heq, String.toList_append]
    exact List.prefix_append _ _
  have hb : b.toList <+: (b ++ name).toList := by
    rw [String.toList_append]
    exact List.prefix_append _ _
  rcases List.prefix_or_prefix_of_prefix ha hb with hab | hba
  · exact h.1 hab
  · exact h.2 hba

variable {source target : String}

theorem Diverge.ne_empty (h : Diverge source target) : source ≠ "" ∧ target ≠ "" := by
  constructor
  · rintro rfl
    exact h.1 (List.nil_prefix)
  · rintro rfl
    exact h.2 (List.nil_prefix)

/-- The first prefix is looked for first. -/
theorem refIdentifier_source_append (hsource : source ≠ "") (name : String) :
    refIdentifier (source ++ name) [source, target] = name := by
  have hstrip : stripPrefix? (source ++ name) source = some name :=
    stripPrefix?_eq_some_iff.mpr rfl
  simp [refIdentifier, hsource, hstrip]

theorem retargetToken_source_append (hsource : source ≠ "") (name : String) :
    retargetToken source target (source ++ name) = target ++ name := by
  rw [retargetToken, refIdentifier_source_append hsource]

/-- A token that is carried over and back again is the same, even if one prefix begins with the
    other: each time the prefix that the token has is the one looked for first. -/
theorem retargetToken_back (hsource : source ≠ "") (htarget : target ≠ "") (name : String) :
    retargetToken target source (retargetToken source target (source ++ name)) = source ++ name := by
  rw [retargetToken_source_append hsource, retargetToken_source_append htarget]

/-- The second prefix counts where the first one does not. -/
theorem refIdentifier_target_append (htarget : target ≠ "") {name : String}
    (hsource : source = "" ∨ ∀ rest, target ++ name ≠ source ++ rest) :
    refIdentifier (target ++ name) [source, target] = name := by
  have hstrip : stripPrefix? (target ++ name) target = some name :=
    stripPrefix?_eq_some_iff.mpr rfl
  rcases hsource with rfl | hother
  · simp [refIdentifier, htarget, hstrip]
  · have hnone : stripPrefix? (target ++ name) source = none := by
      rw [Option.eq_none_iff_forall_ne_some]
      exact fun rest hrest => hother rest (stripPrefix?_eq_some_iff.mp hrest)
    by_cases hempty : source = ""
    · simp [refIdentifier, hempty, htarget, hstrip]
    · simp [refIdentifier, hempty, htarget, hnone, hstrip]

/-- **A token under the target is left alone unless it also begins with the source.** -/
theorem retargetToken_target_append_iff (htarget : target ≠ "") {name : String} :
    retargetToken source target (target ++ name) = target ++ name ↔
      source = "" ∨ source = target ∨ ∀ rest, target ++ name ≠ source ++ rest := by
  rw [retargetToken]
  constructor
  · intro hfixed
    by_cases hempty : source = ""
    · exact Or.inl hempty
    by_cases hsame : source = target
    · exact Or.inr (Or.inl hsame)
    refine Or.inr (Or.inr fun rest hrest => hsame ?_)
    rw [hrest, refIdentifier_source_append hempty] at hfixed
    exact (String.append_left_inj rest).mp hfixed.symm
  · rintro (hempty | rfl | hother)
    · rw [refIdentifier_target_append htarget (Or.inl hempty)]
    · rw [refIdentifier_source_append htarget]
    · rw [refIdentifier_target_append htarget (Or.inr hother)]

/-- **Between prefixes that diverge a token is carried over once.** -/
theorem retargetToken_retargetToken (h : Diverge source target) (token : String) :
    retargetToken source target (retargetToken source target token) =
      retargetToken source target token := by
  exact (retargetToken_target_append_iff h.ne_empty.2).mpr (Or.inr (Or.inr (h.append_ne _)))

theorem diverge_definitions_components : Diverge definitionsPrefix componentsPrefix := by
  decide

end SchemaCatalog
