/-
  What a reference graph vouches for
  ==================================
  **A graph without dangling references answers what its walks found.**

  Building the graph reads every schema of the registry and walks it, so a
  graph that was built shows that all of them can be read and walked, and what
  its edges and dangling references are (`ofRegistry_ok`).  A reference that a
  walk finds, in the tree of a schema or in that of one of its definitions, is
  answered by those definitions, or is registered, or dangles
  (`vouches_of_ofRegistry`).  Of what is nested further down the graph says
  nothing.
-/
import SchemaCatalog.ReferenceGraph
import SchemaCatalog.Proofs.Registry
import SchemaCatalog.Proofs.Schema.Visiting

namespace SchemaCatalog

namespace ReferenceGraph

variable {o : ResolverOptions} {r : Registry}

theorem targetsOf_ok {e : Entity} {targets : List String} (hschema : e.hasSchema = true)
    (h : targetsOf o e = .ok targets) :
    ∃ s tokens, e.readSchema = .ok s ∧ s.refs o.maxDepth = .ok tokens ∧
      ∀ name, name ∈ targets ↔ s.definitions.contains name = false ∧
        ∃ token ∈ tokens, entityIdentifier token o.definitionsPrefix = name := by
  rw [targetsOf, if_pos hschema] at h
  obtain ⟨s, hread, h⟩ := bind_ok_iff.mp h
  obtain ⟨tokens, hrefs, h⟩ := bind_ok_iff.mp h
  cases h
  refine ⟨s, tokens, hread, hrefs, ?_⟩
  intro name
  rw [List.mem_filter, mem_sortedNames_iff, List.mem_map]
  simp [and_comm]

/-- The names that an entity refers to outside its own definitions; none if its schema cannot be
    read or walked. -/
def outside (o : ResolverOptions) (e : Entity) : List String :=
  match targetsOf o e with
  | .ok targets => targets
  | .error _ => []

theorem outside_eq {e : Entity} {targets : List String} (h : targetsOf o e = .ok targets) :
    outside o e = targets := by
  rw [outside, h]

theorem outside_pairwise (o : ResolverOptions) (e : Entity) :
    (outside o e).Pairwise (· < ·) := by
  rw [outside]
  split
  · next targets h =>
    rw [targetsOf] at h
    split at h
    · obtain ⟨s, _, h⟩ := bind_ok_iff.mp h
      obtain ⟨tokens, _, h⟩ := bind_ok_iff.mp h
      cases h
      exact (sortedNames_pairwise _).filter _
    · cases h
      exact List.Pairwise.nil
  · exact List.Pairwise.nil

/-- The references of an entity that lead to no registered one. -/
def danglingOf (o : ResolverOptions) (r : Registry) (entry : String × Entity) :
    List DanglingReference :=
  ((outside o entry.2).filter (!r.contains ·)).map fun target => ⟨entry.1, target⟩

/-- A graph that was built has read the targets of every entity: those that are registered are
    edges, the others dangle. -/
theorem addEntities_ok {l : List (String × Entity)} {g g' : ReferenceGraph}
    (h : addEntities o r g l = .ok g') :
    (∀ entry ∈ l, targetsOf o entry.2 = .ok (outside o entry.2)) ∧
      g'.references = (l.map fun entry => (entry.1, (outside o entry.2).filter r.contains)).foldl
        (fun t entry => t.insert entry.1 entry.2) g.references ∧
      g'.dangling = g.dangling ++ l.flatMap (danglingOf o r) := by
  induction l generalizing g with
  | nil =>
    cases h
    exact ⟨fun _ hmem => absurd hmem List.not_mem_nil, rfl, (List.append_nil _).symm⟩
  | cons entry rest ih =>
    obtain ⟨name, e⟩ := entry
    rw [addEntities] at h
    obtain ⟨targets, htargets, h⟩ := bind_ok_iff.mp h
    simp only [List.partition_eq_filter_filter] at h
    obtain ⟨hrest, hreferences, hdangling⟩ := ih h
    obtain rfl : outside o e = targets := outside_eq htargets
    refine ⟨List.forall_mem_cons.mpr ⟨htargets, hrest⟩, hreferences, ?_⟩
    rw [hdangling, List.flatMap_cons, List.append_assoc]
    rfl

/-- **The graph of a registry**: the edges are the outside references that are registered, and the
    others dangle. -/
theorem ofRegistry_ok {g : ReferenceGraph} (hr : r.Indexed) (h : ofRegistry o r = .ok g) :
    (∀ entry ∈ r.entries, targetsOf o entry.2 = .ok (outside o entry.2)) ∧
      g.references = r.map (fun e => (outside o e).filter r.contains) ∧
      g.dangling = r.entries.flatMap (danglingOf o r) := by
  obtain ⟨htargets, hreferences, hdangling⟩ := addEntities_ok h
  refine ⟨htargets, ?_, hdangling.trans (List.nil_append _)⟩
  have hsorted := hr.sorted.map fun e => (outside o e).filter r.contains
  exact hreferences.trans hsorted.ofList_entries

/-- Every schema of the registry can be read and walked, and the references that the walks find are
    answered by the definitions of the schema or are registered. -/
structure Vouches (o : ResolverOptions) (r : Registry) : Prop where
  reads : ∀ name e, r.get? name = some e → e.hasSchema = true → ∃ s, e.readSchema = .ok s
  answers : ∀ owner s token, r.Supplies owner s → s.RefersTo token →
    s.definitions.contains (entityIdentifier token o.definitionsPrefix) = true ∨
      r.contains (entityIdentifier token o.definitionsPrefix) = true

/-- **A graph without dangling references vouches for its registry.** -/
theorem vouches_of_ofRegistry {g : ReferenceGraph} (hr : r.Indexed)
    (h : ofRegistry o r = .ok g) (hdangling : g.dangling = []) : Vouches o r := by
  obtain ⟨htargets, _, hlost⟩ := ofRegistry_ok hr h
  refine ⟨?_, ?_⟩
  · intro name e hget hschema
    obtain ⟨s, _, hread, _⟩ := targetsOf_ok hschema (htargets _ (Table.mem_of_get? hget))
    exact ⟨s, hread⟩
  · intro owner s token hsupplies hrefers
    obtain ⟨e, bytes, hget, hbytes, hread⟩ := hsupplies
    have hschema : e.hasSchema = true := Registry.hasSchema_of_eq_some hbytes
    have hentry := Table.mem_of_get? hget
    obtain ⟨s', tokens, hread', hrefs, hmem⟩ := targetsOf_ok hschema (htargets _ hentry)
    obtain rfl : s = s' := by
      have hsame := (hr.supplies_iff hget).mp ⟨e, bytes, hget, hbytes, hread⟩
      exact Except.ok.inj (hsame.symm.trans hread')
    by_cases hown : s.definitions.contains (entityIdentifier token o.definitionsPrefix) = true
    · exact Or.inl hown
    · have htarget : entityIdentifier token o.definitionsPrefix ∈ outside o e :=
        (hmem _).mpr ⟨Bool.eq_false_iff.mpr hown, token,
          (Schema.mem_refs_iff hrefs).mpr hrefers, rfl⟩
      refine Or.inr (Classical.byContradiction fun hunknown => ?_)
      have hnone : r.entries.flatMap (danglingOf o r) = [] := hlost.symm.trans hdangling
      have hmap := List.map_eq_nil_iff.mp (List.flatMap_eq_nil_iff.mp hnone _ hentry)
      refine List.filter_eq_nil_iff.mp hmap _ htarget ?_
      rw [Bool.eq_false_iff.mpr hunknown]
      rfl

end ReferenceGraph

end SchemaCatalog
