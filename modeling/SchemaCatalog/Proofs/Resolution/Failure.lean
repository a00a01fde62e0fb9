/-
  Failing resolution
  ==================
  **Why a resolution fails, and with which document in hand.**

  Apart from a walk that goes too deep there is one reason: a reference names
  what the document does not define and what the registry has no schema for
  (`Registry.Refuses`).  Up to that reference the pass went well, so
  everything that is known of passes that succeed is known of the document
  in hand (`inlineTokens_error`), and what one pass preserves holds of
  the document that the failing pass was given
  (`dereferencePasses_error_invariant`).
-/
import SchemaCatalog.Proofs.Resolution.Passes
import SchemaCatalog.Proofs.Schema.Visiting

namespace SchemaCatalog

/-! ## 1. What a registry refuses -/

/-- Why a registry has no schema under a name. -/
inductive Registry.Refuses (entities : Registry) (name : String) : SchemaError → Prop where
  | unregistered : entities.get? name = none →
      Refuses entities name (.unresolvedReference name)
  | schemaless {entity : Entity} : entities.get? name = some entity → entity.schema = none →
      Refuses entities name (.notSchemaCapable name)
  | unreadable {entity : Entity} {bytes : Bytes} {e : SchemaError} :
      entities.get? name = some entity → entity.schema = some bytes →
      Schema.ofBytesNamed name bytes = .error e → Refuses entities name e

theorem Registry.Supplies.unique {entities : Registry} {name : String} {e e' : Schema}
    (h : entities.Supplies name e) (h' : entities.Supplies name e') : e = e' := by
  obtain ⟨entity, bytes, hget, hbytes, hread⟩ := h
  obtain ⟨entity', bytes', hget', hbytes', hread'⟩ := h'
  obtain rfl : entity = entity' := Option.some.inj (hget.symm.trans hget')
  obtain rfl : bytes = bytes' := Option.some.inj (hbytes.symm.trans hbytes')
  exact Except.ok.inj (hread.symm.trans hread')

theorem Registry.Refuses.not_supplies {entities : Registry} {name : String} {err : SchemaError}
    (h : entities.Refuses name err) {e : Schema} : ¬ entities.Supplies name e := by
  rintro ⟨entity, bytes, hget, hbytes, hread⟩
  cases h with
  | unregistered hnone =>
    rw [hnone] at hget
    cases hget
  | schemaless hget' hnone =>
    rw [hget'] at hget
    cases hget
    rw [hnone] at hbytes
    cases hbytes
  | unreadable hget' hbytes' herror =>
    rw [hget'] at hget
    cases hget
    rw [hbytes'] at hbytes
    cases hbytes
    rw [herror] at hread
    cases hread

namespace Schema

variable {entities : Registry} {o : ResolverOptions}

/-! ## 2. Tokens -/

/-- **One token of a pass that fails.**  The pass fails later, or the registry refuses the name. -/
theorem inlineTokens_cons_error_iff {s : Schema} {token : String} {rest : List String}
    {err : SchemaError} :
    inlineTokens entities o s (token :: rest) = .error err ↔
      (s.definitions.contains (entityIdentifier token o.definitionsPrefix) = true ∧
        inlineTokens entities o s rest = .error err) ∨
      (s.definitions.contains (entityIdentifier token o.definitionsPrefix) = false ∧
        (entities.Refuses (entityIdentifier token o.definitionsPrefix) err ∨
          ∃ e, entities.Supplies (entityIdentifier token o.definitionsPrefix) e ∧
            inlineTokens entities o
              { s with definitions :=
                  hoist s.definitions (entityIdentifier token o.definitionsPrefix) e }
              rest = .error err)) := by
  rw [inlineTokens]
  generalize entityIdentifier token o.definitionsPrefix = name
  by_cases htaken : s.definitions.contains name = true
  · simp [htaken]
  rw [if_neg htaken]
  simp only [Bool.not_eq_true] at htaken
  simp only [htaken, Bool.false_eq_true, false_and, true_and, false_or]
  rcases hget : entities.get? name with _ | ⟨ename, _ | bytes, sample, shape⟩
  · constructor
    · intro h
      cases h
      exact Or.inl (.unregistered hget)
    · rintro (hrefuses | ⟨e, ⟨entity, bytes, hentity, _⟩, _⟩)
      · cases hrefuses with
        | unregistered => rfl
        | schemaless h => rw [hget] at h; cases h
        | unreadable h => rw [hget] at h; cases h
      · rw [hget] at hentity
        cases hentity
  · constructor
    · intro h
      cases h
      exact Or.inl (.schemaless hget rfl)
    · rintro (hrefuses | ⟨e, ⟨entity, bytes, hentity, hbytes, _⟩, _⟩)
      · cases hrefuses with
        | unregistered h => rw [hget] at h; cases h
        | schemaless => rfl
        | unreadable h hbytes =>
          rw [hget] at h
          cases h
          cases hbytes
      · rw [hget] at hentity
        cases hentity
        cases hbytes
  · rw [bind_error_iff]
    constructor
    · rintro (hread | ⟨e, hread, h⟩)
      · exact Or.inl (.unreadable hget rfl hread)
      · exact Or.inr ⟨e, ⟨_, bytes, hget, rfl, hread⟩, h⟩
    · rintro (hrefuses | ⟨e, ⟨entity, bytes', hentity, hbytes, hread⟩, h⟩)
      · cases hrefuses with
        | unregistered h => rw [hget] at h; cases h
        | schemaless h hnone =>
          rw [hget] at h
          cases h
          cases hnone
        | unreadable h hbytes hread =>
          rw [hget] at h
          cases h
          cases hbytes
          exact Or.inl hread
      · rw [hget] at hentity
        cases hentity
        cases hbytes
        exact Or.inr ⟨e, hread, h⟩

/-- The token at which a pass fails, and the document in hand when it is reached. -/
theorem inlineTokens_error {s : Schema} {tokens : List String} {err : SchemaError}
    (h : inlineTokens entities o s tokens = .error err) :
    ∃ before token after mid, tokens = before ++ token :: after ∧
      inlineTokens entities o s before = .ok mid ∧
      mid.definitions.contains (entityIdentifier token o.definitionsPrefix) = false ∧
      entities.Refuses (entityIdentifier token o.definitionsPrefix) err := by
  induction tokens generalizing s with
  | nil => cases h
  | cons token rest ih =>
    rcases inlineTokens_cons_error_iff.mp h with ⟨htaken, h⟩ | ⟨hfree, hrefuses | ⟨e, hsupplies, h⟩⟩
    · obtain ⟨before, token', after, mid, rfl, hmid, hlast⟩ := ih h
      exact ⟨token :: before, token', after, mid, rfl,
        inlineTokens_cons_ok_iff.mpr (Or.inl ⟨htaken, hmid⟩), hlast⟩
    · exact ⟨[], token, rest, s, rfl, rfl, hfree, hrefuses⟩
    · obtain ⟨before, token', after, mid, rfl, hmid, hlast⟩ := ih h
      exact ⟨token :: before, token', after, mid, rfl,
        inlineTokens_cons_ok_iff.mpr (Or.inr ⟨hfree, e, hsupplies, hmid⟩), hlast⟩

/-! ## 3. Passes -/

theorem refs_error {maxDepth : Nat} {s : Schema} {err : SchemaError}
    (h : s.refs maxDepth = .error err) : ∃ path, err = depthError maxDepth path := by
  rw [refs] at h
  split at h
  · next path _ =>
    cases h
    exact ⟨path, rfl⟩
  · cases h

/-- **A pass that fails** exceeds the depth, or meets a reference whose name is neither defined
    nor supplied. -/
theorem dereference_error {s : Schema} {err : SchemaError}
    (h : s.dereference entities o = .error err) :
    (∃ path, err = depthError o.maxDepth path) ∨
      ∃ before token mid, (∀ t ∈ before, s.RefersTo t) ∧ s.RefersTo token ∧
        inlineTokens entities o s before = .ok mid ∧
        mid.definitions.contains (entityIdentifier token o.definitionsPrefix) = false ∧
        entities.Refuses (entityIdentifier token o.definitionsPrefix) err := by
  rcases bind_error_iff.mp h with hrefs | ⟨tokens, hrefs, h⟩
  · exact Or.inl (refs_error hrefs)
  · obtain ⟨before, token, after, mid, rfl, hmid, hfree, hrefuses⟩ := inlineTokens_error h
    refine Or.inr ⟨before, token, mid, ?_, ?_, hmid, hfree, hrefuses⟩
    · intro t ht
      exact (mem_refs_iff hrefs).mp (List.mem_append_left _ ht)
    · exact (mem_refs_iff hrefs).mp (List.mem_append_right _ List.mem_cons_self)

theorem dereferencePasses_succ_error_iff {fuel : Nat} {s : Schema} {err : SchemaError} :
    s.dereferencePasses entities o (fuel + 1) = .error err ↔
      s.dereference entities o = .error err ∨
      ∃ next, s.dereference entities o = .ok next ∧
        next.definitions.size ≠ s.definitions.size ∧
        next.dereferencePasses entities o fuel = .error err := by
  rw [dereferencePasses, bind_error_iff]
  refine or_congr Iff.rfl (exists_congr fun next => and_congr_right fun _ => ?_)
  by_cases hsize : next.definitions.size = s.definitions.size
  · simp [hsize, pure, Except.pure]
  · simp [hsize]

section

variable {P : Schema → Prop}
  (step : ∀ s next, P s → s.dereference entities o = .ok next → P next)

include step

/-- What one pass preserves, repeated passes preserve. -/
theorem dereferencePasses_invariant {fuel : Nat} {s out : Schema} (hs : P s)
    (h : s.dereferencePasses entities o fuel = .ok out) : P out := by
  induction fuel generalizing s with
  | zero =>
    cases h
    exact hs
  | succ fuel ih =>
    obtain ⟨next, hpass, ⟨_, rfl⟩ | ⟨_, hrest⟩⟩ := dereferencePasses_succ_ok_iff.mp h
    · exact step s next hs hpass
    · exact ih (step s next hs hpass) hrest

/-- What one pass preserves holds of the document that the failing pass was given. -/
theorem dereferencePasses_error_invariant {fuel : Nat} {s : Schema} {err : SchemaError} (hs : P s)
    (h : s.dereferencePasses entities o fuel = .error err) :
    ∃ t, P t ∧ t.dereference entities o = .error err := by
  induction fuel generalizing s with
  | zero => cases h
  | succ fuel ih =>
    rcases dereferencePasses_succ_error_iff.mp h with hpass | ⟨next, hpass, _, hrest⟩
    · exact ⟨s, hs, hpass⟩
    · exact ih (step s next hs hpass) hrest

end

end Schema

end SchemaCatalog
