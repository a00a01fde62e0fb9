/-
  Prefixes that overlap
  =====================
  **Retargeting a second time, for any two prefixes.**

  The name of a token is what follows the first of the prefixes that the token
  begins with, and the prefix to leave is tried before the prefix to
  reach.  A token that has been retargeted can begin with both of them:
  always if the first is a beginning of the second, and now and then if the
  second is a beginning of the first.  Then the next time takes another name from it.

  So a second time changes nothing exactly if no retargeted token begins with
  the prefix to leave (`retargetRefs_again_iff`).  That the second time succeeds
  does not depend on the prefixes.
-/
import SchemaCatalog.Resolve
import SchemaCatalog.Proofs.Reference
import SchemaCatalog.Proofs.Schema.Remapping

namespace SchemaCatalog.Schema

/-- A document whose tokens all begin with the target is left alone unless one of them begins with
    the source too. -/
theorem mapReached_retargetToken_eq_self_iff (source : String) {target : String} {s : Schema}
    (htarget : target ≠ "")
    (hs : ∀ token, s.RefersTo token → ∃ name, token = target ++ name) :
    s.mapReached (retargetToken source target) = s ↔
      source = "" ∨ source = target ∨ ∀ rest, ¬ s.RefersTo (source ++ rest) := by
  rw [mapReached_eq_self_iff]
  constructor
  · intro hall
    by_cases hempty : source = ""
    · exact Or.inl hempty
    by_cases hsame : source = target
    · exact Or.inr (Or.inl hsame)
    refine Or.inr (Or.inr fun rest hrest => ?_)
    obtain ⟨name, hname⟩ := hs _ hrest
    have hfixed := hall _ hrest
    rw [hname, retargetToken_target_append_iff htarget] at hfixed
    exact (hfixed.resolve_left hempty).resolve_left hsame rest hname.symm
  · intro hfree token htoken
    obtain ⟨name, rfl⟩ := hs _ htoken
    rw [retargetToken_target_append_iff htarget]
    refine hfree.imp_right (Or.imp_right fun hnone rest hrest => hnone rest ?_)
    rw [← hrest]
    exact htoken

/-- **Retargeting again.**  Where the references of a document have been carried over from one
    prefix to another one, doing so a second time succeeds, and it changes nothing exactly if the
    first prefix is empty, the two are the same, or no token begins with the first one by then.
    In particular nothing changes if neither prefix begins with the other. -/
theorem retargetRefs_again_iff (source target : String) (maxDepth : Nat) (s once : Schema)
    (htarget : target ≠ "") (h : s.retargetRefs source target maxDepth = ⟨once, (), none⟩) :
    ∃ twice, once.retargetRefs source target maxDepth = ⟨twice, (), none⟩ ∧
      (twice = once ↔
        source = "" ∨ source = target ∨ ∀ rest, ¬ once.RefersTo (source ++ rest)) ∧
      (Diverge source target → twice = once) := by
  obtain ⟨hwalk, rfl⟩ := mapRefs_ok_iff.mp h
  have htokens : ∀ token, (s.mapReached (retargetToken source target)).RefersTo token →
      ∃ name, token = target ++ name := by
    intro token htoken
    obtain ⟨original, _, rfl⟩ := refersTo_mapReached_iff.mp htoken
    exact ⟨_, rfl⟩
  have hiff := mapReached_retargetToken_eq_self_iff source htarget htokens
  refine ⟨_, mapRefs_ok_iff.mpr ⟨?_, rfl⟩, hiff, fun hdiverge => hiff.mpr ?_⟩
  · rw [walk_mapReached_exceeded, hwalk]
  · refine Or.inr (Or.inr fun rest hrest => ?_)
    obtain ⟨name, hname⟩ := htokens _ hrest
    exact hdiverge.append_ne name rest hname.symm

/-- **A token can grow every time.**  The prefix to leave is a beginning of the prefix to reach, so
    what is reached is left again. -/
theorem retargetRefs_compounds :
    (reference "#/definitions/A").retargetRefs "#/" "#/definitions/" defaultMaxDepth =
      ⟨reference "#/definitions/definitions/A", (), none⟩ ∧
    (reference "#/definitions/definitions/A").retargetRefs "#/" "#/definitions/" defaultMaxDepth =
      ⟨reference "#/definitions/definitions/definitions/A", (), none⟩ ∧
    reference "#/definitions/definitions/definitions/A" ≠
      reference "#/definitions/definitions/A" := by
  exact ⟨rfl, rfl, by decide⟩

/-- An item that stands in another document, and a definition that refers to a third. -/
def scatteredSchema : Schema where
  items := some (.each (.schema (.reference "shared.json#/things/D")))
  definitions := ⟨[("B", .schema { oneOf := [.schema (.reference "#/definitions/A")] })]⟩

/-- The prefix to reach is a beginning of the prefix to leave, and yet no token begins with the
    longer one after the first time. -/
theorem scatteredSchema_retargetRefs_again :
    ∃ once, scatteredSchema.retargetRefs "#/definitions/" "#/" defaultMaxDepth = ⟨once, (), none⟩ ∧
    ∃ twice, once.retargetRefs "#/definitions/" "#/" defaultMaxDepth = ⟨twice, (), none⟩ ∧
      (twice = once ↔ "#/definitions/" = "" ∨ "#/definitions/" = "#/" ∨
        ∀ rest, ¬ once.RefersTo ("#/definitions/" ++ rest)) ∧
      (Diverge "#/definitions/" "#/" → twice = once) := by
  refine ⟨_, rfl, ?_⟩
  exact retargetRefs_again_iff "#/definitions/" "#/" defaultMaxDepth scatteredSchema _ (by decide) rfl

end SchemaCatalog.Schema
