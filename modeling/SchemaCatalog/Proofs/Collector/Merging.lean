/-
  Merging definitions
  ===================
  **What a collector holds after additions that succeeded.**

  A definition contributes itself and the definitions inside it, to any
  depth.  `Represents c seen` says that the collector holds exactly the names
  among the contributions `seen`, each with the common canonical form and with
  examples as soon as one contribution has them.  An addition that succeeds
  adds its contributions to `seen`; one that fails shows that they are not
  `Consistent` with `seen`.

  An addition takes a shortcut: the definitions inside a definition that is
  known are not looked at again.  They need not be there if the known
  definition is still being added, as an outer one of the present one.
  But an outer definition has a greater tree of definitions than an inner one,
  and equal canonical forms have equal trees, so the two cannot be taken for each
  other.  `ClosedBelow seen r` keeps track of this: the definitions inside
  a definition of rank below `r` have been seen.
-/
import SchemaCatalog.Collector
import SchemaCatalog.Proofs.Schema.Nesting
import SchemaCatalog.Proofs.Table

namespace SchemaCatalog

namespace Collector

/-! ## 1. Contributions -/

mutual

/-- A definition and those inside it, to any depth, each with its name. -/
def contributions (name : String) : Schema → List (String × Schema)
  | s@{ definitions := ⟨definitions⟩, .. } => (name, s) :: contributionsOf definitions

/-- The contributions of the schemas of a table of definitions. -/
def contributionsOf : List (String × Subschema Schema) → List (String × Schema)
  | [] => []
  | (_, .flag _) :: rest => contributionsOf rest
  | (name, .schema s) :: rest => contributions name s ++ contributionsOf rest

end

theorem contributions_eq (name : String) (s : Schema) :
    contributions name s = (name, s) :: contributionsOf s.definitions.entries := by
  cases s
  rfl

theorem mem_contributionsOf_iff {l : List (String × Subschema Schema)} {p : String × Schema} :
    p ∈ contributionsOf l ↔ ∃ key d, (key, .schema d) ∈ l ∧ p ∈ contributions key d := by
  induction l with
  | nil => simp [contributionsOf]
  | cons e rest ih =>
    obtain ⟨name, b | s⟩ := e
    · rw [contributionsOf, ih]
      simp
    · rw [contributionsOf, List.mem_append, ih]
      constructor
      · rintro (hp | ⟨key, d, hmem, hp⟩)
        · exact ⟨name, s, List.mem_cons_self, hp⟩
        · exact ⟨key, d, List.mem_cons_of_mem _ hmem, hp⟩
      · rintro ⟨key, d, hmem, hp⟩
        rcases List.mem_cons.mp hmem with heq | hmem
        · cases heq
          exact Or.inl hp
        · exact Or.inr ⟨key, d, hmem, hp⟩

theorem self_mem_contributions (name : String) (s : Schema) :
    (name, s) ∈ contributions name s := by
  rw [contributions_eq]
  exact List.mem_cons_self

/-- What a definition inside another one contributes, the other one contributes. -/
theorem mem_contributions_of_definition {name key : String} {s d : Schema} {p : String × Schema}
    (h : (key, .schema d) ∈ s.definitions.entries) (hp : p ∈ contributions key d) :
    p ∈ contributions name s := by
  rw [contributions_eq]
  exact List.mem_cons_of_mem _ (mem_contributionsOf_iff.mpr ⟨key, d, h, hp⟩)

/-- No contribution has a greater tree of definitions than the definition it comes from. -/
theorem rank_le_of_mem_contributions (s : Schema) :
    ∀ name, ∀ p ∈ contributions name s, p.2.rank ≤ s.rank := by
  induction s using Schema.inductionOnDefinitions with
  | step s ih =>
    intro name p hp
    rw [contributions_eq] at hp
    rcases List.mem_cons.mp hp with rfl | hp
    · exact Nat.le_refl _
    · obtain ⟨key, d, hd, hp⟩ := mem_contributionsOf_iff.mp hp
      exact Nat.le_trans (ih key d hd key p hp)
        (Nat.le_of_lt (Schema.rank_lt_of_mem_definitions hd))

/-- What a list of named schemas contributes. -/
def allContributions (l : List (String × Schema)) : List (String × Schema) :=
  l.flatMap fun e => contributions e.1 e.2

/-- Contributions that can be merged: names are not empty, and names that differ at most in letter
    case are the same and stand for schemas that are the same up to their examples. -/
structure Consistent (l : List (String × Schema)) : Prop where
  named : ∀ p ∈ l, p.1 ≠ ""
  agree : ∀ p ∈ l, ∀ q ∈ l, lowercase p.1 = lowercase q.1 →
    p.1 = q.1 ∧ p.2.canonical = q.2.canonical

theorem Consistent.subset {l m : List (String × Schema)} (h : Consistent l)
    (hsub : ∀ p ∈ m, p ∈ l) : Consistent m where
  named p hp := h.named p (hsub p hp)
  agree p hp q hq := h.agree p (hsub p hp) q (hsub q hq)

/-! ## 2. The invariant -/

/-- The collector holds what has been seen, merged. -/
structure Represents (c : Collector) (seen : List (String × Schema)) : Prop where
  sorted : c.entries.Sorted
  named : ∀ p ∈ seen, p.1 ≠ ""
  held : ∀ p ∈ seen, ∃ e, c.entries.get? (lowercase p.1) = some e ∧ e.name = p.1 ∧
    e.schema.canonical = p.2.canonical ∧ (p.2.hasExamples → e.schema.hasExamples)
  origin : ∀ key e, c.entries.get? key = some e →
    key = lowercase e.name ∧ e.checksum = e.schema.checksum ∧ (e.name, e.schema) ∈ seen

theorem represents_empty : Represents {} [] where
  sorted := List.Pairwise.nil
  named _ h := absurd h List.not_mem_nil
  held _ h := absurd h List.not_mem_nil
  origin _ _ h := by cases h

/-- What a collector represents is consistent: contributions of one name are one entry. -/
theorem Represents.consistent {c : Collector} {seen : List (String × Schema)}
    (h : Represents c seen) : Consistent seen where
  named := h.named
  agree p hp q hq hkey := by
    obtain ⟨e, he, hname, hcanonical, _⟩ := h.held p hp
    obtain ⟨e', he', hname', hcanonical', _⟩ := h.held q hq
    rw [hkey, he'] at he
    cases he
    exact ⟨hname.symm.trans hname', hcanonical.symm.trans hcanonical'⟩

/-- The definitions inside a contribution of rank below `r` have been seen. -/
def ClosedBelow (seen : List (String × Schema)) (r : Nat) : Prop :=
  ∀ p ∈ seen, p.2.rank < r → ∀ key d, (key, .schema d) ∈ p.2.definitions.entries →
    (key, d) ∈ seen

theorem ClosedBelow.mono {seen : List (String × Schema)} {r r' : Nat} (h : ClosedBelow seen r)
    (hle : r' ≤ r) : ClosedBelow seen r' :=
  fun p hp hlt => h p hp (Nat.lt_of_lt_of_le hlt hle)

/-- Everything that a contribution of rank below `r` contributes has been seen. -/
theorem ClosedBelow.contributions_subset {seen : List (String × Schema)} {r : Nat}
    (h : ClosedBelow seen r) (s : Schema) :
    ∀ name, (name, s) ∈ seen → s.rank < r → ∀ q ∈ contributions name s, q ∈ seen := by
  induction s using Schema.inductionOnDefinitions with
  | step s ih =>
    intro name hmem hlt q hq
    rw [contributions_eq] at hq
    rcases List.mem_cons.mp hq with rfl | hq
    · exact hmem
    · obtain ⟨key, d, hd, hq⟩ := mem_contributionsOf_iff.mp hq
      exact ih key d hd key (h _ hmem hlt key d hd)
        (Nat.lt_trans (Schema.rank_lt_of_mem_definitions hd) hlt) q hq

/-- Equal checksums stand for equal canonical forms. -/
def Faithful (l : List (String × Schema)) : Prop :=
  ∀ p ∈ l, ∀ q ∈ l, p.2.checksum = q.2.checksum → p.2.canonical = q.2.canonical

theorem Faithful.subset {l m : List (String × Schema)} (h : Faithful l)
    (hsub : ∀ p ∈ m, p ∈ l) : Faithful m :=
  fun p hp q hq => h p (hsub p hp) q (hsub q hq)

/-! ## 3. One addition -/

variable {c : Collector} {name : String} {s : Schema} {seen : List (String × Schema)}

theorem add_eq (c : Collector) (name : String) (s : Schema) :
    c.add name s = match c.decide name s with
      | .refuse e => (c, .error e)
      | .known => (c, .ok ())
      | .store key entry => addEntries ⟨c.entries.insert key entry⟩ s.definitions.entries := by
  cases s
  rfl

theorem decide_refuse {e : SchemaError} (h : c.decide name s = .refuse e) :
    name = "" ∨ ∃ old, c.entries.get? (lowercase name) = some old ∧
      (old.name ≠ name ∨ old.checksum ≠ s.checksum) := by
  simp only [Collector.decide] at h
  split at h
  · next hname => exact Or.inl hname
  · split at h
    · cases h
    · next old hold =>
      split at h
      · next hne => exact Or.inr ⟨old, hold, Or.inl hne⟩
      · split at h
        · next hne => exact Or.inr ⟨old, hold, Or.inr hne⟩
        · split at h <;> cases h

theorem decide_known (h : c.decide name s = .known) :
    name ≠ "" ∧ ∃ old, c.entries.get? (lowercase name) = some old ∧ old.name = name ∧
      old.checksum = s.checksum ∧ (old.schema.hasExamples ∨ ¬ s.hasExamples) := by
  simp only [Collector.decide] at h
  split at h
  · cases h
  · next hname =>
    split at h
    · cases h
    · next old hold =>
      split at h
      · cases h
      · next heq =>
        split at h
        · cases h
        · next hchecksum =>
          split at h
          · next hexamples =>
            exact ⟨hname, old, hold, Classical.not_not.mp heq, Classical.not_not.mp hchecksum,
              hexamples⟩
          · cases h

theorem decide_store {key : String} {entry : Entry} (h : c.decide name s = .store key entry) :
    name ≠ "" ∧ key = lowercase name ∧ entry = ⟨name, s, s.checksum⟩ ∧
      ∀ old, c.entries.get? (lowercase name) = some old →
        old.name = name ∧ old.checksum = s.checksum ∧ s.hasExamples ∧
          ¬ old.schema.hasExamples := by
  simp only [Collector.decide] at h
  split at h
  · cases h
  · next hname =>
    split at h
    · next hnone =>
      cases h
      refine ⟨hname, rfl, rfl, fun old hold => ?_⟩
      rw [hnone] at hold
      cases hold
    · next old hold =>
      split at h
      · cases h
      · next heq =>
        split at h
        · cases h
        · next hchecksum =>
          split at h
          · cases h
          · next hexamples =>
            cases h
            refine ⟨hname, rfl, rfl, fun old' hold' => ?_⟩
            rw [hold] at hold'
            cases hold'
            rw [not_or, Classical.not_not] at hexamples
            exact ⟨Classical.not_not.mp heq, Classical.not_not.mp hchecksum, hexamples.2,
              hexamples.1⟩

theorem checksum_congr {s t : Schema} (h : s.canonical = t.canonical) :
    s.checksum = t.checksum := by
  rw [Schema.checksum, Schema.checksum, h]

theorem definitions_congr {s t : Schema} (h : s.canonical = t.canonical) :
    s.definitions = t.definitions := by
  have hdefinitions : s.canonical.definitions = t.canonical.definitions := by rw [h]
  exact hdefinitions

/-- A definition that is refused does not go with what has been seen. -/
theorem not_consistent_of_refuse {e : SchemaError} (hc : Represents c seen)
    (h : c.decide name s = .refuse e) : ¬ Consistent (seen ++ contributions name s) := by
  intro hconsistent
  have hself : (name, s) ∈ seen ++ contributions name s :=
    List.mem_append_right _ (self_mem_contributions name s)
  rcases decide_refuse h with hempty | ⟨old, hold, hne⟩
  · exact hconsistent.named _ hself hempty
  · obtain ⟨hkey, hchecksum, hseen⟩ := hc.origin _ old hold
    obtain ⟨hname, hcanonical⟩ :=
      hconsistent.agree _ (List.mem_append_left _ hseen) _ hself hkey.symm
    rcases hne with hne | hne
    · exact hne hname
    · exact hne (hchecksum.trans (checksum_congr hcanonical))

/-- The entry under the name of a definition that is not refused has the same canonical form. -/
theorem canonical_eq_of_entry {old : Entry} (hc : Represents c seen)
    (hfaithful : Faithful (seen ++ contributions name s))
    (hold : c.entries.get? (lowercase name) = some old) (hchecksum : old.checksum = s.checksum) :
    old.schema.canonical = s.canonical := by
  obtain ⟨_, hown, hseen⟩ := hc.origin _ old hold
  exact hfaithful _ (List.mem_append_left _ hseen) _
    (List.mem_append_right _ (self_mem_contributions name s)) (hown.symm.trans hchecksum)

/-- A known definition has been seen with everything in it: its rank keeps it apart from the
    definitions that are still being added. -/
theorem known_subset {r : Nat} (hc : Represents c seen) (hclosed : ClosedBelow seen r)
    (hr : s.rank < r) (hfaithful : Faithful (seen ++ contributions name s))
    (h : c.decide name s = .known) :
    ∀ p ∈ contributions name s, p = (name, s) ∨ p ∈ seen := by
  intro p hp
  obtain ⟨_, old, hold, _, hchecksum, _⟩ := decide_known h
  have hdefinitions : old.schema.definitions = s.definitions :=
    definitions_congr (canonical_eq_of_entry hc hfaithful hold hchecksum)
  have hrank : old.schema.rank < r := by
    rw [Schema.rank, hdefinitions]
    exact hr
  obtain ⟨_, _, hseen⟩ := hc.origin _ old hold
  rw [contributions_eq] at hp
  rcases List.mem_cons.mp hp with rfl | hp
  · exact Or.inl rfl
  · refine Or.inr (hclosed.contributions_subset old.schema old.name hseen hrank p ?_)
    rw [contributions_eq, hdefinitions]
    exact List.mem_cons_of_mem _ hp

/-- A known definition changes nothing. -/
theorem Represents.add_known {r : Nat} (hc : Represents c seen) (hclosed : ClosedBelow seen r)
    (hr : s.rank < r) (hfaithful : Faithful (seen ++ contributions name s))
    (h : c.decide name s = .known) :
    Represents c (seen ++ contributions name s) ∧
      ClosedBelow (seen ++ contributions name s) r := by
  obtain ⟨hname, old, hold, hsame, hchecksum, hexamples⟩ := decide_known h
  have hnew : ∀ p ∈ seen ++ contributions name s, p = (name, s) ∨ p ∈ seen := by
    intro p hp
    rcases List.mem_append.mp hp with hp | hp
    · exact Or.inr hp
    · exact known_subset hc hclosed hr hfaithful h p hp
  refine ⟨⟨hc.sorted, ?_, ?_, ?_⟩, ?_⟩
  · intro p hp
    rcases hnew p hp with rfl | hp
    · exact hname
    · exact hc.named p hp
  · intro p hp
    rcases hnew p hp with rfl | hp
    · refine ⟨old, hold, hsame, canonical_eq_of_entry hc hfaithful hold hchecksum, ?_⟩
      intro hs
      exact hexamples.resolve_right (fun hno => hno hs)
    · exact hc.held p hp
  · intro key e he
    obtain ⟨hkey, hown, hseen⟩ := hc.origin key e he
    exact ⟨hkey, hown, List.mem_append_left _ hseen⟩
  · intro p hp hlt key d hd
    rcases hnew p hp with rfl | hp
    · exact List.mem_append_right _
        (mem_contributions_of_definition hd (self_mem_contributions key d))
    · exact List.mem_append_left _ (hclosed p hp hlt key d hd)

/-- A stored definition is held, alone at first. -/
theorem Represents.insert {key : String} {entry : Entry} (hc : Represents c seen)
    (hfaithful : Faithful (seen ++ contributions name s))
    (h : c.decide name s = .store key entry) :
    Represents ⟨c.entries.insert key entry⟩ (seen ++ [(name, s)]) := by
  obtain ⟨hname, rfl, rfl, hold⟩ := decide_store h
  refine ⟨hc.sorted.insert _ _, ?_, ?_, ?_⟩
  · intro p hp
    rcases List.mem_append.mp hp with hp | hp
    · exact hc.named p hp
    · obtain rfl := List.mem_singleton.mp hp
      exact hname
  · intro p hp
    rw [Table.get?_insert]
    rcases List.mem_append.mp hp with hp | hp
    · obtain ⟨e, he, hsame, hcanonical, hexamples⟩ := hc.held p hp
      by_cases hkey : lowercase p.1 = lowercase name
      · -- the entry of `p` is replaced by one with examples
        rw [hkey] at he
        obtain ⟨holdName, hchecksum, hs, _⟩ := hold e he
        refine ⟨_, if_pos hkey, holdName.symm.trans hsame, ?_, fun _ => hs⟩
        exact (canonical_eq_of_entry hc hfaithful he hchecksum).symm.trans hcanonical
      · exact ⟨e, (if_neg hkey).trans he, hsame, hcanonical, hexamples⟩
    · obtain rfl := List.mem_singleton.mp hp
      exact ⟨_, if_pos rfl, rfl, rfl, id⟩
  · intro k e he
    rw [Table.get?_insert] at he
    by_cases hk : k = lowercase name
    · rw [if_pos hk] at he
      cases he
      exact ⟨hk, rfl, List.mem_append_right _ List.mem_cons_self⟩
    · rw [if_neg hk] at he
      obtain ⟨hkey, hown, hseen⟩ := hc.origin k e he
      exact ⟨hkey, hown, List.mem_append_left _ hseen⟩

/-! ## 4. Additions with everything inside -/

/-- What adding the contributions `new` comes to: they are merged with what has been seen, or they
    cannot be. -/
def Merges (seen new : List (String × Schema)) (r : Nat) : Collector × Outcome Unit → Prop
  | (c, .ok ()) => Represents c (seen ++ new) ∧ ClosedBelow (seen ++ new) r
  | (_, .error _) => ¬ Consistent (seen ++ new)

theorem addEntries_merges {r : Nat} {l : List (String × Subschema Schema)}
    (hl : ∀ key d, (key, .schema d) ∈ l → ∀ c seen, Represents c seen → ClosedBelow seen r →
      Faithful (seen ++ contributions key d) →
      Merges seen (contributions key d) r (c.add key d)) :
    ∀ c seen, Represents c seen → ClosedBelow seen r → Faithful (seen ++ contributionsOf l) →
      Merges seen (contributionsOf l) r (c.addEntries l) := by
  induction l with
  | nil =>
    intro c seen hc hclosed _
    rw [contributionsOf, addEntries, Merges, List.append_nil]
    exact ⟨hc, hclosed⟩
  | cons e rest ih =>
    have hrest := ih fun key d hmem => hl key d (List.mem_cons_of_mem _ hmem)
    obtain ⟨key, b | d⟩ := e
    · intro c seen hc hclosed hfaithful
      rw [contributionsOf] at hfaithful ⊢
      rw [addEntries]
      exact hrest c seen hc hclosed hfaithful
    · intro c seen hc hclosed hfaithful
      rw [contributionsOf, ← List.append_assoc] at hfaithful
      have hfirst := hl key d List.mem_cons_self c seen hc hclosed
        (hfaithful.subset fun p hp => List.mem_append_left _ hp)
      rw [contributionsOf, addEntries]
      rcases hadd : c.add key d with ⟨c', e | ⟨⟩⟩
      · rw [hadd] at hfirst
        intro hconsistent
        rw [← List.append_assoc] at hconsistent
        exact hfirst (hconsistent.subset fun p hp => List.mem_append_left _ hp)
      · rw [hadd] at hfirst
        obtain ⟨hc', hclosed'⟩ := hfirst
        have hmerges := hrest c' _ hc' hclosed' hfaithful
        simp only
        rcases hentries : c'.addEntries rest with ⟨c'', e | ⟨⟩⟩
        · rw [hentries, Merges, List.append_assoc] at hmerges
          exact hmerges
        · rw [hentries, Merges, List.append_assoc] at hmerges
          exact hmerges

/-- **An addition merges what it contributes, or what it contributes cannot be merged.** -/
theorem add_merges (s : Schema) :
    ∀ name c seen r, Represents c seen → ClosedBelow seen r → s.rank < r →
      Faithful (seen ++ contributions name s) →
      Merges seen (contributions name s) r (c.add name s) := by
  induction s using Schema.inductionOnDefinitions with
  | step s ih =>
    intro name c seen r hc hclosed hr hfaithful
    rw [add_eq]
    cases hdecide : c.decide name s with
    | refuse e => exact not_consistent_of_refuse hc hdecide
    | known => exact hc.add_known hclosed hr hfaithful hdecide
    | store key entry =>
      have hsplit : seen ++ contributions name s =
          seen ++ [(name, s)] ++ contributionsOf s.definitions.entries := by
        rw [contributions_eq, List.append_assoc, List.singleton_append]
      -- below the rank of `s` nothing is new yet
      have hbelow : ClosedBelow (seen ++ [(name, s)]) s.rank := by
        intro p hp hlt key d hd
        rcases List.mem_append.mp hp with hp | hp
        · exact List.mem_append_left _ (hclosed p hp (Nat.lt_trans hlt hr) key d hd)
        · obtain rfl := List.mem_singleton.mp hp
          exact absurd hlt (Nat.lt_irrefl _)
      rw [hsplit] at hfaithful
      have hmerges := addEntries_merges
        (fun key d hd c seen hc hclosed hfaithful => ih key d hd key c seen s.rank hc hclosed
          (Schema.rank_lt_of_mem_definitions hd) hfaithful)
        _ _ (hc.insert (hsplit ▸ hfaithful) hdecide) hbelow hfaithful
      simp only
      rcases hentries : addEntries ⟨c.entries.insert key entry⟩ s.definitions.entries with
        ⟨c', e | ⟨⟩⟩
      · rw [hentries] at hmerges
        rw [Merges, hsplit]
        exact hmerges
      · rw [hentries] at hmerges
        obtain ⟨hc', hclosed'⟩ := hmerges
        rw [Merges, hsplit]
        refine ⟨hc', ?_⟩
        intro p hp hlt key d hd
        rcases List.mem_append.mp hp with hold | hin
        · rcases List.mem_append.mp hold with hold | hself
          · exact List.mem_append_left _ (List.mem_append_left _ (hclosed p hold hlt key d hd))
          · obtain rfl := List.mem_singleton.mp hself
            exact List.mem_append_right _
              (mem_contributionsOf_iff.mpr ⟨key, d, hd, self_mem_contributions key d⟩)
        · obtain ⟨k, inner, hinner, hin⟩ := mem_contributionsOf_iff.mp hin
          refine hclosed' p hp ?_ key d hd
          exact Nat.lt_of_le_of_lt (rank_le_of_mem_contributions inner k p hin)
            (Schema.rank_lt_of_mem_definitions hinner)

/-! ## 5. Runs -/

/-- Adds named schemas one after the other, going on after a failure; with the outcome of each
    addition. -/
def addEach (c : Collector) : List (String × Schema) → Collector × List (Outcome Unit)
  | [] => (c, [])
  | (name, s) :: rest =>
    let (c, outcome) := c.add name s
    let (c, outcomes) := addEach c rest
    (c, outcome :: outcomes)

/-- Every addition succeeds. -/
def Succeeds (c : Collector) (l : List (String × Schema)) : Prop :=
  ∀ outcome ∈ (c.addEach l).2, outcome = .ok ()

theorem addEach_cons (c : Collector) (name : String) (s : Schema) (rest : List (String × Schema)) :
    c.addEach ((name, s) :: rest) =
      (((c.add name s).1.addEach rest).1,
        (c.add name s).2 :: ((c.add name s).1.addEach rest).2) :=
  rfl

theorem succeeds_cons_iff {e : String × Schema} {rest : List (String × Schema)} :
    Succeeds c (e :: rest) ↔ (c.add e.1 e.2).2 = .ok () ∧ Succeeds (c.add e.1 e.2).1 rest := by
  rw [Succeeds, addEach_cons, List.forall_mem_cons]
  rfl

/-- **A run succeeds exactly if its contributions can be merged, and then they are.** -/
theorem addEach_merges {l : List (String × Schema)} :
    ∀ c seen, Represents c seen → (∀ r, ClosedBelow seen r) →
      Faithful (seen ++ allContributions l) →
      (Succeeds c l ↔ Consistent (seen ++ allContributions l)) ∧
        (Succeeds c l → Represents (c.addEach l).1 (seen ++ allContributions l)) := by
  induction l with
  | nil =>
    intro c seen hc _ _
    have hsucceeds : Succeeds c [] := fun _ h => absurd h List.not_mem_nil
    rw [allContributions, List.flatMap_nil, List.append_nil]
    exact ⟨⟨fun _ => hc.consistent, fun _ => hsucceeds⟩, fun _ => hc⟩
  | cons e rest ih =>
    intro c seen hc hclosed hfaithful
    obtain ⟨name, s⟩ := e
    have hsplit : seen ++ allContributions ((name, s) :: rest) =
        seen ++ contributions name s ++ allContributions rest := by
      rw [allContributions, List.flatMap_cons, List.append_assoc]
      rfl
    rw [hsplit] at hfaithful ⊢
    have hmerges (r : Nat) (hr : s.rank < r) :
        Merges seen (contributions name s) r (c.add name s) :=
      add_merges s name c seen r hc (hclosed r) hr
        (hfaithful.subset fun p hp => List.mem_append_left _ hp)
    rw [succeeds_cons_iff, addEach_cons]
    rcases hadd : c.add name s with ⟨c', e | ⟨⟩⟩
    · have hno := hmerges (s.rank + 1) (Nat.lt_succ_self _)
      rw [hadd] at hno
      refine ⟨⟨fun h => absurd h.1 nofun, fun hconsistent => ?_⟩, fun h => absurd h.1 nofun⟩
      exact absurd (hconsistent.subset fun p hp => List.mem_append_left _ hp) hno
    · -- any bound above the rank of `s` will do, so what is seen stays closed below every bound
      have hc' : Represents c' (seen ++ contributions name s) := by
        have hyes := hmerges (s.rank + 1) (Nat.lt_succ_self _)
        rw [hadd] at hyes
        exact hyes.1
      have hclosed' (r : Nat) : ClosedBelow (seen ++ contributions name s) r := by
        have hyes := hmerges (max r (s.rank + 1)) (Nat.lt_of_succ_le (Nat.le_max_right _ _))
        rw [hadd] at hyes
        exact hyes.2.mono (Nat.le_max_left _ _)
      obtain ⟨hiff, hrepresents⟩ := ih c' _ hc' hclosed' hfaithful
      exact ⟨⟨fun h => hiff.mp h.2, fun h => ⟨rfl, hiff.mpr h⟩⟩, fun h => hrepresents h.2⟩

/-- The same of a run from the empty collector. -/
theorem addEach_empty_merges {l : List (String × Schema)}
    (hfaithful : Faithful (allContributions l)) :
    (Succeeds {} l ↔ Consistent (allContributions l)) ∧
      (Succeeds {} l → Represents (addEach {} l).1 (allContributions l)) := by
  have hnothing (r : Nat) : ClosedBelow [] r := fun p hp => absurd hp List.not_mem_nil
  exact addEach_merges {} [] represents_empty hnothing hfaithful

end Collector

end SchemaCatalog
