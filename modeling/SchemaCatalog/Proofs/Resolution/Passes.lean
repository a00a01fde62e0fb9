/-
  Passes
  ======
  **What one pass of resolution does, and why repeating it ends.**

  A pass goes through the references of a document and hoists an entity of
  the registry for every one that is not answered.  However many entities
  that is, the document changes in its definitions only, the definitions
  are completed (`Completes`), and either nothing happens or the number of
  definitions grows by an entity of the registry (`Grows`).  So the number
  of definitions is an exact test: if it did not grow, the pass found
  every reference answered, and the document is what it was.

  A pass that adds something takes a name away from `freeNames`, of which
  there are no more than entities.  One pass more than there are entities
  is therefore enough to reach a document that a further pass leaves
  unchanged (`dereferenceTransitive_fixpoint`).
-/
import SchemaCatalog.Proofs.Outcome
import SchemaCatalog.Proofs.Resolution.Hoisting

namespace SchemaCatalog

/-- The entity registered under `name` has a schema document, which reads as `e`. -/
def Registry.Supplies (entities : Registry) (name : String) (e : Schema) : Prop :=
  ∃ entity bytes, entities.get? name = some entity ∧ entity.schema = some bytes ∧
    Schema.ofBytesNamed name bytes = .ok e

theorem Registry.Supplies.mem_keys {entities : Registry} {name : String} {e : Schema}
    (h : entities.Supplies name e) : name ∈ entities.keys := by
  obtain ⟨entity, _, hget, _⟩ := h
  exact Table.mem_keys_iff.mpr (Table.contains_of_get? hget)

namespace Schema

variable {entities : Registry} {o : ResolverOptions}

/-! ## 1. One token -/

/-- **One token of a pass.**  A token is passed over if its name is taken; otherwise the registry
    supplies a schema for it, and the pass goes on with that schema hoisted. -/
theorem inlineTokens_cons_ok_iff {s out : Schema} {token : String} {rest : List String} :
    inlineTokens entities o s (token :: rest) = .ok out ↔
      (s.definitions.contains (entityIdentifier token o.definitionsPrefix) = true ∧
        inlineTokens entities o s rest = .ok out) ∨
      (s.definitions.contains (entityIdentifier token o.definitionsPrefix) = false ∧
        ∃ e, entities.Supplies (entityIdentifier token o.definitionsPrefix) e ∧
          inlineTokens entities o
            { s with definitions :=
                hoist s.definitions (entityIdentifier token o.definitionsPrefix) e }
            rest = .ok out) := by
  rw [inlineTokens]
  generalize entityIdentifier token o.definitionsPrefix = name
  by_cases htaken : s.definitions.contains name = true
  · simp [htaken]
  · rw [if_neg htaken]
    simp only [Bool.not_eq_true] at htaken
    simp only [htaken, Bool.false_eq_true, false_and, true_and, false_or]
    rcases hget : entities.get? name with _ | ⟨ename, _ | bytes, sample, shape⟩
    · -- nothing is registered under the name
      constructor
      · intro h
        cases h
      · rintro ⟨e, ⟨entity, bytes, hentity, _⟩, _⟩
        rw [hget] at hentity
        cases hentity
    · -- the entity has no schema
      constructor
      · intro h
        cases h
      · rintro ⟨e, ⟨entity, bytes, hentity, hbytes, _⟩, _⟩
        rw [hget] at hentity
        cases hentity
        cases hbytes
    · rw [bind_ok_iff]
      constructor
      · rintro ⟨e, hread, h⟩
        exact ⟨e, ⟨_, bytes, hget, rfl, hread⟩, h⟩
      · rintro ⟨e, ⟨entity, bytes', hentity, hbytes, hread⟩, h⟩
        rw [hget] at hentity
        cases hentity
        cases hbytes
        exact ⟨e, hread, h⟩

/-! ## 2. Any number of tokens -/

/-- What resolution may do to a document: nothing, or add to its definitions at least one
    entity of the registry, and with everything added what that refers to as its own. -/
structure Grows (entities : Registry) (s out : Schema) : Prop where
  frame : out = { s with definitions := out.definitions }
  completes : Completes s.definitions out.definitions
  progress : out = s ∨ (s.definitions.size < out.definitions.size ∧
    ∃ name ∈ entities.keys, s.definitions.contains name = false ∧
      out.definitions.contains name = true)

namespace Grows

theorem refl (entities : Registry) (s : Schema) : Grows entities s s where
  frame := by cases s; rfl
  completes := Completes.refl _
  progress := Or.inl rfl

theorem trans {s t out : Schema} (h : Grows entities s t) (h' : Grows entities t out) :
    Grows entities s out where
  frame := by
    rw [h'.frame, h.frame]
  completes := h.completes.trans h'.completes
  progress := by
    rcases h.progress with rfl | ⟨hsize, name, hname, hfree, htaken⟩
    · exact h'.progress
    · refine Or.inr ⟨?_, name, hname, hfree, h'.completes.extends_.contains htaken⟩
      rcases h'.progress with rfl | ⟨hsize', _⟩
      · exact hsize
      · exact Nat.lt_trans hsize hsize'

theorem hoist {s e : Schema} {name : String} (hsupplies : entities.Supplies name e)
    (hfree : s.definitions.contains name = false) :
    Grows entities s { s with definitions := Schema.hoist s.definitions name e } where
  frame := rfl
  completes := (completes_hoist e s.definitions name hfree).1
  progress := Or.inr ⟨size_lt_hoist e s.definitions name hfree, name, hsupplies.mem_keys, hfree,
    Table.contains_of_get? (completes_hoist e s.definitions name hfree).2⟩

/-- If the number of definitions did not grow, nothing changed. -/
theorem eq_of_size_eq {s out : Schema} (h : Grows entities s out)
    (hsize : out.definitions.size = s.definitions.size) : out = s := by
  rcases h.progress with heq | ⟨hlt, _⟩
  · exact heq
  · omega

end Grows

/-- Treating tokens in order grows the document, and answers each of them. -/
theorem inlineTokens_ok {s out : Schema} {tokens : List String}
    (h : inlineTokens entities o s tokens = .ok out) :
    Grows entities s out ∧ ∀ token ∈ tokens,
      out.definitions.contains (entityIdentifier token o.definitionsPrefix) = true := by
  induction tokens generalizing s with
  | nil =>
    rw [inlineTokens] at h
    cases h
    exact ⟨Grows.refl entities _, by simp⟩
  | cons token rest ih =>
    rcases inlineTokens_cons_ok_iff.mp h with ⟨htaken, hrest⟩ | ⟨hfree, e, hsupplies, hrest⟩
    · obtain ⟨hgrows, hanswered⟩ := ih hrest
      refine ⟨hgrows, fun t ht => ?_⟩
      rcases List.mem_cons.mp ht with rfl | ht
      · exact hgrows.completes.extends_.contains htaken
      · exact hanswered t ht
    · obtain ⟨hgrows, hanswered⟩ := ih hrest
      refine ⟨(Grows.hoist hsupplies hfree).trans hgrows, fun t ht => ?_⟩
      rcases List.mem_cons.mp ht with rfl | ht
      · exact hgrows.completes.extends_.contains
          (Table.contains_of_get? (completes_hoist e s.definitions _ hfree).2)
      · exact hanswered t ht

/-- Tokens whose names are taken are all passed over. -/
theorem inlineTokens_of_answered {s : Schema} {tokens : List String}
    (h : ∀ token ∈ tokens,
      s.definitions.contains (entityIdentifier token o.definitionsPrefix) = true) :
    inlineTokens entities o s tokens = .ok s := by
  induction tokens with
  | nil => rfl
  | cons token rest ih =>
    exact inlineTokens_cons_ok_iff.mpr (Or.inl ⟨h token List.mem_cons_self,
      ih fun t ht => h t (List.mem_cons_of_mem _ ht)⟩)

/-! ## 3. One pass -/

theorem dereference_ok_iff {s out : Schema} :
    s.dereference entities o = .ok out ↔
      ∃ tokens, s.refs o.maxDepth = .ok tokens ∧ inlineTokens entities o s tokens = .ok out :=
  bind_ok_iff

theorem dereference_grows {s out : Schema} (h : s.dereference entities o = .ok out) :
    Grows entities s out := by
  obtain ⟨tokens, _, hinline⟩ := dereference_ok_iff.mp h
  exact (inlineTokens_ok hinline).1

/-- The references of a document are within the depth of a walk, and its definitions answer each
    of them. -/
def SelfContained (o : ResolverOptions) (s : Schema) : Prop :=
  ∃ tokens, s.refs o.maxDepth = .ok tokens ∧ ∀ token ∈ tokens,
    s.definitions.contains (entityIdentifier token o.definitionsPrefix) = true

/-- **A pass changes nothing exactly on self-contained documents**, whatever the registry. -/
theorem dereference_eq_self_iff {s : Schema} :
    s.dereference entities o = .ok s ↔ s.SelfContained o := by
  constructor
  · intro h
    obtain ⟨tokens, hrefs, hinline⟩ := dereference_ok_iff.mp h
    exact ⟨tokens, hrefs, (inlineTokens_ok hinline).2⟩
  · rintro ⟨tokens, hrefs, hanswered⟩
    exact dereference_ok_iff.mpr ⟨tokens, hrefs, inlineTokens_of_answered hanswered⟩

/-! ## 4. Repeated passes -/

theorem dereferencePasses_succ_ok_iff {fuel : Nat} {s out : Schema} :
    s.dereferencePasses entities o (fuel + 1) = .ok out ↔
      ∃ next, s.dereference entities o = .ok next ∧
        ((next.definitions.size = s.definitions.size ∧ next = out) ∨
          (next.definitions.size ≠ s.definitions.size ∧
            next.dereferencePasses entities o fuel = .ok out)) := by
  rw [dereferencePasses, bind_ok_iff]
  refine exists_congr fun next => and_congr_right fun _ => ?_
  by_cases hsize : next.definitions.size = s.definitions.size
  · simp [hsize, pure, Except.pure]
  · simp [hsize]

theorem dereferencePasses_grows {fuel : Nat} {s out : Schema}
    (h : s.dereferencePasses entities o fuel = .ok out) : Grows entities s out := by
  induction fuel generalizing s with
  | zero =>
    rw [dereferencePasses] at h
    cases h
    exact Grows.refl entities _
  | succ fuel ih =>
    obtain ⟨next, hpass, ⟨_, rfl⟩ | ⟨_, hrest⟩⟩ := dereferencePasses_succ_ok_iff.mp h
    · exact dereference_grows hpass
    · exact (dereference_grows hpass).trans (ih hrest)

/-- The registered names that a table of definitions does not have. -/
def freeNames (entities : Registry) (t : Definitions) : List String :=
  entities.keys.filter fun name => !t.contains name

theorem length_freeNames_le (entities : Registry) (t : Definitions) :
    (freeNames entities t).length ≤ entities.size := by
  refine Nat.le_trans (List.length_filter_le _ _) ?_
  rw [Table.keys, List.length_map]
  exact Nat.le_refl _

/-- Growth takes a name away from the free ones. -/
theorem Grows.length_freeNames_lt {s out : Schema} (h : Grows entities s out)
    (hsize : out.definitions.size ≠ s.definitions.size) :
    (freeNames entities out.definitions).length < (freeNames entities s.definitions).length := by
  rcases h.progress with rfl | ⟨_, name, hname, hfree, htaken⟩
  · exact absurd rfl hsize
  · have hsub : freeNames entities out.definitions =
        (freeNames entities s.definitions).filter fun k => !out.definitions.contains k := by
      rw [freeNames, freeNames, List.filter_filter]
      refine List.filter_congr fun k _ => ?_
      cases hk : s.definitions.contains k with
      | false => simp
      | true => simp [h.completes.extends_.contains hk]
    rw [hsub]
    refine List.length_filter_lt_length_iff_exists.mpr ⟨name, ?_, by simp [htaken]⟩
    exact List.mem_filter.mpr ⟨hname, by simp [hfree]⟩

/-- With more passes than free names, the last pass found nothing to do. -/
theorem dereferencePasses_fixpoint {fuel : Nat} {s out : Schema}
    (enough : (freeNames entities s.definitions).length < fuel)
    (h : s.dereferencePasses entities o fuel = .ok out) :
    out.dereference entities o = .ok out := by
  induction fuel generalizing s with
  | zero => omega
  | succ fuel ih =>
    obtain ⟨next, hpass, ⟨hsize, rfl⟩ | ⟨hsize, hrest⟩⟩ := dereferencePasses_succ_ok_iff.mp h
    · -- equally many definitions: the pass changed nothing
      have hsame : next = s := (dereference_grows hpass).eq_of_size_eq hsize
      rw [hsame] at hpass ⊢
      exact hpass
    · have hfewer := (dereference_grows hpass).length_freeNames_lt hsize
      exact ih (by omega) hrest

/-- **Repeating the pass ends at a fixpoint.** -/
theorem dereferenceTransitive_fixpoint {s out : Schema}
    (h : s.dereferenceTransitive entities o = .ok out) :
    out.dereference entities o = .ok out := by
  refine dereferencePasses_fixpoint ?_ h
  have := length_freeNames_le entities s.definitions
  omega

/-- On a self-contained document the first pass is the last. -/
theorem SelfContained.dereferenceTransitive {s : Schema} (h : s.SelfContained o)
    (entities : Registry) : s.dereferenceTransitive entities o = .ok s :=
  dereferencePasses_succ_ok_iff.mpr ⟨s, dereference_eq_self_iff.mpr h, Or.inl ⟨rfl, rfl⟩⟩

end Schema

end SchemaCatalog
