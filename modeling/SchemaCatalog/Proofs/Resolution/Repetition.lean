/-
  Repeated passes
  ===============
  **How often a pass is repeated.**

  Resolving to the end is a loop without a counter: it stops at the first
  pass that fails or leaves the number of definitions as it was.  `Repeats`
  is that loop as a relation, with the documents that its passes are given.  It
  has no bound; that it always ends, and with which result, is what is
  to be shown.

  A pass that is followed by another one `Inlines` an entity of the registry:
  the first reference whose name is not taken brings it, and nothing that
  comes later takes it away.  So every such pass uses up one of the
  registered names (`Inlines.card_freeNames_lt`).
-/
import Mathlib.Data.Finset.Card
import SchemaCatalog.Proofs.Resolution.Failure

namespace SchemaCatalog.Schema

variable {entities : Registry} {o : ResolverOptions}

/-! ## 1. The loop -/

/-- The loop that starts from a document hands `docs` to its passes, in this order, and ends with
    `result`. -/
inductive Repeats (entities : Registry) (o : ResolverOptions) :
    Schema → List Schema → Outcome Schema → Prop where
  | failed {s : Schema} {err : SchemaError} : s.dereference entities o = .error err →
      Repeats entities o s [s] (.error err)
  | settled {s next : Schema} : s.dereference entities o = .ok next →
      next.definitions.size = s.definitions.size → Repeats entities o s [s] (.ok next)
  | again {s next : Schema} {docs : List Schema} {result : Outcome Schema} :
      s.dereference entities o = .ok next → next.definitions.size ≠ s.definitions.size →
      Repeats entities o next docs result → Repeats entities o s (s :: docs) result

namespace Repeats

/-- **The loop has one course.** -/
theorem unique {s : Schema} {docs docs' : List Schema} {result result' : Outcome Schema}
    (h : Repeats entities o s docs result) (h' : Repeats entities o s docs' result') :
    docs' = docs ∧ result' = result := by
  induction h generalizing docs' result' with
  | failed hpass =>
    cases h' with
    | failed hpass' => exact ⟨rfl, congrArg _ (Except.error.inj (hpass'.symm.trans hpass))⟩
    | settled hpass' => exact nomatch hpass'.symm.trans hpass
    | again hpass' => exact nomatch hpass'.symm.trans hpass
  | settled hpass hsize =>
    cases h' with
    | failed hpass' => exact nomatch hpass'.symm.trans hpass
    | settled hpass' => exact ⟨rfl, congrArg _ (Except.ok.inj (hpass'.symm.trans hpass))⟩
    | again hpass' hsize' =>
      cases Except.ok.inj (hpass'.symm.trans hpass)
      exact absurd hsize hsize'
  | again hpass hsize _ ih =>
    cases h' with
    | failed hpass' => exact nomatch hpass'.symm.trans hpass
    | settled hpass' hsize' =>
      cases Except.ok.inj (hpass'.symm.trans hpass)
      exact absurd hsize' hsize
    | again hpass' _ hrest' =>
      cases Except.ok.inj (hpass'.symm.trans hpass)
      obtain ⟨rfl, rfl⟩ := ih hrest'
      exact ⟨rfl, rfl⟩

/-- The first pass is given the document itself. -/
theorem head {s : Schema} {docs : List Schema} {result : Outcome Schema}
    (h : Repeats entities o s docs result) : ∃ rest, docs = s :: rest := by
  cases h with
  | failed => exact ⟨[], rfl⟩
  | settled => exact ⟨[], rfl⟩
  | again => exact ⟨_, rfl⟩

end Repeats

/-! ## 2. A pass that is not the last -/

/-- A pass that succeeds keeps all definitions and adds an entity that the registry supplies for a
    reference of the document, under a name that was free. -/
structure Inlines (entities : Registry) (o : ResolverOptions) (s next : Schema) : Prop where
  pass : s.dereference entities o = .ok next
  kept : s.definitions.Extends next.definitions
  added : ∃ token e, s.RefersTo token ∧
    s.definitions.contains (entityIdentifier token o.definitionsPrefix) = false ∧
    entities.Supplies (entityIdentifier token o.definitionsPrefix) e ∧
    next.definitions.get? (entityIdentifier token o.definitionsPrefix) = some (.schema e)

/-- Tokens change nothing, or the first whose name is free brings its entity, which stays. -/
theorem inlineTokens_added {s out : Schema} {tokens : List String}
    (h : inlineTokens entities o s tokens = .ok out) : out = s ∨ ∃ token ∈ tokens, ∃ e,
      s.definitions.contains (entityIdentifier token o.definitionsPrefix) = false ∧
      entities.Supplies (entityIdentifier token o.definitionsPrefix) e ∧
      out.definitions.get? (entityIdentifier token o.definitionsPrefix) = some (.schema e) := by
  induction tokens with
  | nil =>
    cases h
    exact Or.inl rfl
  | cons token rest ih =>
    rcases inlineTokens_cons_ok_iff.mp h with ⟨_, hrest⟩ | ⟨hfree, e, hsupplies, hrest⟩
    · rcases ih hrest with rfl | ⟨token', hmem, hadded⟩
      · exact Or.inl rfl
      · exact Or.inr ⟨token', List.mem_cons_of_mem _ hmem, hadded⟩
    · -- the entity is put in at once, and the remaining tokens keep it
      have hhoisted := (completes_hoist e s.definitions _ hfree).2
      have hkept := (inlineTokens_ok hrest).1.completes.extends_
      exact Or.inr ⟨token, List.mem_cons_self, e, hfree, hsupplies, hkept _ _ hhoisted⟩

theorem inlines_of_size_ne {s next : Schema} (hpass : s.dereference entities o = .ok next)
    (hsize : next.definitions.size ≠ s.definitions.size) : Inlines entities o s next := by
  refine ⟨hpass, (dereference_grows hpass).completes.extends_, ?_⟩
  obtain ⟨tokens, hrefs, hinline⟩ := dereference_ok_iff.mp hpass
  rcases inlineTokens_added hinline with rfl | ⟨token, hmem, e, hadded⟩
  · exact absurd rfl hsize
  · exact ⟨token, e, (mem_refs_iff hrefs).mp hmem, hadded⟩

theorem Repeats.chain {s : Schema} {docs : List Schema} {result : Outcome Schema}
    (h : Repeats entities o s docs result) : docs.IsChain (Inlines entities o) := by
  induction h with
  | failed => exact .singleton _
  | settled => exact .singleton _
  | again hpass hsize hrest ih =>
    obtain ⟨rest, rfl⟩ := hrest.head
    exact .cons_cons (inlines_of_size_ne hpass hsize) ih

/-! ## 3. The number of passes -/

theorem mem_freeNames_iff {t : Definitions} {name : String} :
    name ∈ freeNames entities t ↔ name ∈ entities.keys ∧ t.contains name = false := by
  rw [freeNames, List.mem_filter, Bool.not_eq_true']

/-- A pass that inlines an entity uses up its name. -/
theorem Inlines.card_freeNames_lt {s next : Schema} (h : Inlines entities o s next) :
    (freeNames entities next.definitions).toFinset.card <
      (freeNames entities s.definitions).toFinset.card := by
  obtain ⟨token, e, _, hfree, hsupplies, hget⟩ := h.added
  apply Finset.card_lt_card
  refine (Finset.ssubset_iff_of_subset ?_).mpr
    ⟨entityIdentifier token o.definitionsPrefix, ?_, ?_⟩
  · intro name hname
    rw [List.mem_toFinset, mem_freeNames_iff] at hname ⊢
    exact ⟨hname.1, h.kept.free hname.2⟩
  · rw [List.mem_toFinset, mem_freeNames_iff]
    exact ⟨hsupplies.mem_keys, hfree⟩
  · rw [List.mem_toFinset, mem_freeNames_iff, Table.contains_of_get? hget]
    exact fun hname => nomatch hname.2

theorem Repeats.length_le {s : Schema} {docs : List Schema} {result : Outcome Schema}
    (h : Repeats entities o s docs result) :
    docs.length ≤ (freeNames entities s.definitions).toFinset.card + 1 := by
  induction h with
  | failed => exact Nat.le_add_left _ _
  | settled => exact Nat.le_add_left _ _
  | again hpass hsize _ ih =>
    have hfewer := (inlines_of_size_ne hpass hsize).card_freeNames_lt
    rw [List.length_cons]
    omega

/-- With more fuel than free names the passes follow the loop to its end. -/
theorem repeats_dereferencePasses {fuel : Nat} {s : Schema}
    (enough : (freeNames entities s.definitions).length < fuel) :
    ∃ docs, Repeats entities o s docs (s.dereferencePasses entities o fuel) := by
  induction fuel generalizing s with
  | zero => exact absurd enough (Nat.not_lt_zero _)
  | succ fuel ih =>
    rw [dereferencePasses]
    cases hpass : s.dereference entities o with
    | error err => exact ⟨[s], .failed hpass⟩
    | ok next =>
      by_cases hsize : next.definitions.size = s.definitions.size
      · refine ⟨[s], ?_⟩
        have hresult := Repeats.settled hpass hsize
        simpa [hsize, bind, Except.bind, pure, Except.pure] using hresult
      · -- the pass has used up a free name, so the fuel still exceeds their number
        have hfewer := (dereference_grows hpass).length_freeNames_lt hsize
        obtain ⟨docs, hrest⟩ := ih (s := next) (by omega)
        refine ⟨s :: docs, ?_⟩
        simpa [hsize, bind, Except.bind] using Repeats.again hpass hsize hrest

/-- **Resolving to the end is what the loop does.** -/
theorem repeats_dereferenceTransitive (entities : Registry) (o : ResolverOptions) (s : Schema) :
    ∃ docs, Repeats entities o s docs (s.dereferenceTransitive entities o) := by
  refine repeats_dereferencePasses ?_
  have := length_freeNames_le entities s.definitions
  omega

/-- **The loop ends**, on references that form cycles as on any others.  Whatever the document, the
    registry and the options, it has one course, which ends with the result of resolution after at
    most one pass more than there are registered names: every pass but the last keeps all
    definitions and adds a registered entity under a name that was free. -/
theorem dereferenceTransitive_ends (entities : Registry) (o : ResolverOptions) (s : Schema) :
    ∃ docs, Repeats entities o s docs (s.dereferenceTransitive entities o) ∧
      (∀ docs' result, Repeats entities o s docs' result →
        docs' = docs ∧ result = s.dereferenceTransitive entities o) ∧
      docs.length ≤ entities.keys.toFinset.card + 1 ∧
      docs.IsChain (Inlines entities o) := by
  obtain ⟨docs, hrepeats⟩ := repeats_dereferenceTransitive entities o s
  refine ⟨docs, hrepeats, fun _ _ h => hrepeats.unique h, ?_, hrepeats.chain⟩
  have hfree : (freeNames entities s.definitions).toFinset.card ≤ entities.keys.toFinset.card := by
    refine Finset.card_le_card fun name hname => ?_
    rw [List.mem_toFinset] at hname ⊢
    exact (mem_freeNames_iff.mp hname).1
  have hlength := hrepeats.length_le
  omega

end SchemaCatalog.Schema
