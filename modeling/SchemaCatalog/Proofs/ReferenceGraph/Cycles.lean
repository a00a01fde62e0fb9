/-
  Exact reference graphs
  ======================
  **The edges are the outside references, and the cycles are the classes of
  entities that reach each other.**

  The search keeps a list of the nodes that are still new.  What it finds is what
  can be reached on a way that stays among them (`mem_reachFrom_iff`); as no
  edge leaves the nodes, from all of them this is reachability along edges
  (`mem_reachable_iff`).  So `cycleOf` is a class of mutual reachability, listed
  in order, and `cycles` has each class once, under its first member.

  A search for strongly connected components gives the classes in an order
  of its own, with the nodes on no cycle each by themselves.  Leaving those out
  and putting the rest in order gives `cycles`, whichever search it is
  (`cyclicParts_perm`).
-/
import Mathlib.Logic.Relation
import SchemaCatalog.Proofs.ReferenceGraph

namespace SchemaCatalog.ReferenceGraph

open Relation

/-! ## 1. The search -/

section

variable {next : String → List String} {new pending : List String} {name : String}

/-- What can be reached from `pending` on a way that stays in `new`. -/
inductive Within (next : String → List String) (new pending : List String) : String → Prop where
  | start {name : String} : name ∈ pending → name ∈ new → Within next new pending name
  | step {a b : String} : Within next new pending a → b ∈ next a → b ∈ new →
      Within next new pending b

/-- A node that is not new leads nowhere. -/
theorem within_cons_of_not_mem (h : name ∉ new) {target : String} :
    Within next new (name :: pending) target ↔ Within next new pending target := by
  constructor
  · intro hwithin
    induction hwithin with
    | start hmem hnew =>
      rcases List.mem_cons.mp hmem with rfl | hmem
      · exact absurd hnew h
      · exact .start hmem hnew
    | step _ hnext hnew ih => exact .step ih hnext hnew
  · intro hwithin
    induction hwithin with
    | start hmem hnew => exact .start (List.mem_cons_of_mem _ hmem) hnew
    | step _ hnext hnew ih => exact .step ih hnext hnew

/-- A new node is found, and what comes after it need not come back to it. -/
theorem within_cons_of_mem (h : name ∈ new) {target : String} :
    Within next new (name :: pending) target ↔
      target = name ∨ Within next (new.erase name) (next name ++ pending) target := by
  constructor
  · intro hwithin
    induction hwithin with
    | @start target hmem hnew =>
      by_cases heq : target = name
      · exact Or.inl heq
      · refine Or.inr (.start (List.mem_append_right _ ?_) ((List.mem_erase_of_ne heq).mpr hnew))
        exact (List.mem_cons.mp hmem).resolve_left heq
    | @step a b _ hnext hnew ih =>
      by_cases heq : b = name
      · exact Or.inl heq
      · have hnew' : b ∈ new.erase name := (List.mem_erase_of_ne heq).mpr hnew
        rcases ih with rfl | hwithin
        · exact Or.inr (.start (List.mem_append_left _ hnext) hnew')
        · exact Or.inr (.step hwithin hnext hnew')
  · have hself : Within next new (name :: pending) name := .start List.mem_cons_self h
    rintro (rfl | hwithin)
    · exact hself
    · induction hwithin with
      | start hmem hnew =>
        have hnew := List.mem_of_mem_erase hnew
        rcases List.mem_append.mp hmem with hmem | hmem
        · exact .step hself hmem hnew
        · exact .start (List.mem_cons_of_mem _ hmem) hnew
      | step _ hnext hnew ih => exact .step ih hnext (List.mem_of_mem_erase hnew)

theorem mem_reachFrom_iff {target : String} :
    target ∈ reachFrom next new pending ↔ Within next new pending target := by
  fun_induction reachFrom next new pending with
  | case1 new =>
    refine ⟨fun h => absurd h List.not_mem_nil, fun h => ?_⟩
    induction h with
    | start hmem _ => exact absurd hmem List.not_mem_nil
    | step _ _ _ ih => exact absurd ih List.not_mem_nil
  | case2 new name pending hname ih => rw [List.mem_cons, ih, within_cons_of_mem hname]
  | case3 new name pending hname ih => rw [ih, within_cons_of_not_mem hname]

end

/-! ## 2. Reachability -/

variable {g : ReferenceGraph} {a b c : String}

/-- One entity refers to another. -/
def Edge (g : ReferenceGraph) (a b : String) : Prop := b ∈ g.referencesOf a

/-- Two entities reach each other. -/
def Mutual (g : ReferenceGraph) (a b : String) : Prop :=
  TransGen g.Edge a b ∧ TransGen g.Edge b a

theorem Mutual.symm (h : g.Mutual a b) : g.Mutual b a := ⟨h.2, h.1⟩

theorem Mutual.trans (h : g.Mutual a b) (h' : g.Mutual b c) : g.Mutual a c :=
  ⟨h.1.trans h'.1, h'.2.trans h.2⟩

/-- The nodes are in order, and every edge leads to one of them. -/
structure Closed (g : ReferenceGraph) : Prop where
  sorted : g.nodes.Pairwise (· < ·)
  mem_nodes : ∀ a b, g.Edge a b → b ∈ g.nodes

namespace Closed

variable (h : Closed g)
include h

theorem mem_nodes_of_reaches (hab : TransGen g.Edge a b) : b ∈ g.nodes := by
  cases hab with
  | single hedge => exact h.mem_nodes _ _ hedge
  | tail _ hedge => exact h.mem_nodes _ _ hedge

theorem mem_reachable_iff : b ∈ g.reachable a ↔ TransGen g.Edge a b := by
  rw [reachable, mem_reachFrom_iff]
  constructor
  · intro hwithin
    induction hwithin with
    | start hmem _ => exact .single hmem
    | step _ hnext _ ih => exact ih.tail hnext
  · intro hreaches
    induction hreaches with
    | single hedge => exact .start hedge (h.mem_nodes _ _ hedge)
    | tail _ hedge ih => exact .step ih hedge (h.mem_nodes _ _ hedge)

/-! ## 3. Cycles -/

/-- **The cycle of an entity consists of those that it reaches and that reach it.** -/
theorem mem_cycleOf_iff : b ∈ g.cycleOf a ↔ g.Mutual a b := by
  simp only [cycleOf, List.mem_filter, Bool.and_eq_true, List.contains_iff_mem,
    h.mem_reachable_iff]
  exact and_iff_right_of_imp fun hmutual => h.mem_nodes_of_reaches hmutual.1

theorem cycleOf_pairwise (a : String) : (g.cycleOf a).Pairwise (· < ·) :=
  h.sorted.filter _

theorem cycleOf_congr (hab : g.Mutual a b) : g.cycleOf a = g.cycleOf b := by
  refine eq_of_pairwise_lt (h.cycleOf_pairwise a) (h.cycleOf_pairwise b) fun name => ?_
  rw [h.mem_cycleOf_iff, h.mem_cycleOf_iff]
  exact ⟨hab.symm.trans, hab.trans⟩

/-- A group is the cycle of each of its members. -/
theorem mem_cycles_iff {group : List String} :
    group ∈ g.cycles ↔ ∃ a, g.Mutual a a ∧ group = g.cycleOf a := by
  simp only [cycles, List.mem_filterMap, Option.ite_none_right_eq_some, Option.some.injEq]
  constructor
  · rintro ⟨name, _, hhead, rfl⟩
    have hself := h.mem_cycleOf_iff.mp (List.mem_of_head? hhead)
    exact ⟨name, hself, rfl⟩
  · rintro ⟨a, hself, rfl⟩
    have ha : a ∈ g.cycleOf a := h.mem_cycleOf_iff.mpr hself
    obtain ⟨first, rest, hgroup⟩ := List.exists_cons_of_ne_nil (List.ne_nil_of_mem ha)
    have hmutual : g.Mutual a first := by
      rw [← h.mem_cycleOf_iff, hgroup]
      exact List.mem_cons_self
    have hsame := h.cycleOf_congr hmutual
    refine ⟨first, h.mem_nodes_of_reaches hmutual.1, ?_, hsame.symm⟩
    rw [← hsame, hgroup, List.head?_cons]

/-- **Two entities are in a common group exactly if they reach each other.** -/
theorem exists_group_iff : (∃ group ∈ g.cycles, a ∈ group ∧ b ∈ group) ↔ g.Mutual a b := by
  constructor
  · rintro ⟨group, hgroup, ha, hb⟩
    obtain ⟨c, _, rfl⟩ := h.mem_cycles_iff.mp hgroup
    exact (h.mem_cycleOf_iff.mp ha).symm.trans (h.mem_cycleOf_iff.mp hb)
  · intro hab
    have haa := hab.trans hab.symm
    exact ⟨g.cycleOf a, h.mem_cycles_iff.mpr ⟨a, haa, rfl⟩, h.mem_cycleOf_iff.mpr haa,
      h.mem_cycleOf_iff.mpr hab⟩

/-- The groups stand in the order of their first members. -/
theorem cycles_pairwise_head :
    g.cycles.Pairwise fun group group' => ∃ a rest b rest',
      group = a :: rest ∧ group' = b :: rest' ∧ a < b := by
  rw [cycles, List.pairwise_filterMap]
  refine h.sorted.imp fun {a b} hab group hgroup group' hgroup' => ?_
  simp only [Option.ite_none_right_eq_some, Option.some.injEq] at hgroup hgroup'
  obtain ⟨hhead, rfl⟩ := hgroup
  obtain ⟨hhead', rfl⟩ := hgroup'
  obtain ⟨rest, hrest⟩ := List.head?_eq_some_iff.mp hhead
  obtain ⟨rest', hrest'⟩ := List.head?_eq_some_iff.mp hhead'
  exact ⟨a, rest, b, rest', hrest, hrest', hab⟩

theorem cycles_pairwise_lt : g.cycles.Pairwise (· < ·) := by
  refine h.cycles_pairwise_head.imp ?_
  rintro _ _ ⟨a, rest, b, rest', rfl, rfl, hab⟩
  exact List.cons_lt_cons_iff.mpr (Or.inl hab)

/-- Groups with a common member are the same. -/
theorem eq_of_mem_of_mem {group group' : List String} (hgroup : group ∈ g.cycles)
    (hgroup' : group' ∈ g.cycles) (ha : a ∈ group) (ha' : a ∈ group') : group = group' := by
  obtain ⟨b, _, rfl⟩ := h.mem_cycles_iff.mp hgroup
  obtain ⟨c, _, rfl⟩ := h.mem_cycles_iff.mp hgroup'
  exact h.cycleOf_congr ((h.mem_cycleOf_iff.mp ha).trans (h.mem_cycleOf_iff.mp ha').symm)

theorem cycles_disjoint : g.cycles.Pairwise List.Disjoint := by
  refine h.cycles_pairwise_lt.imp_of_mem fun {group group'} hgroup hgroup' hlt a ha ha' => ?_
  have heq := h.eq_of_mem_of_mem hgroup hgroup' ha ha'
  exact List.lt_irrefl _ (heq ▸ hlt)

end Closed

/-! ## 4. Strongly connected components -/

/-- The nodes are split into the classes of those that are the same or reach each other. -/
structure Components (g : ReferenceGraph) (parts : List (List String)) : Prop where
  nonempty : ∀ part ∈ parts, part ≠ []
  nodup : parts.flatten.Nodup
  mem_nodes_iff : ∀ a, a ∈ parts.flatten ↔ a ∈ g.nodes
  mem_part_iff : ∀ part ∈ parts, ∀ a ∈ part, ∀ b,
    b ∈ part ↔ ReflTransGen g.Edge a b ∧ ReflTransGen g.Edge b a

/-- Whether a component has several nodes or one that refers to itself. -/
def isCyclic (g : ReferenceGraph) : List String → Bool
  | [a] => (g.referencesOf a).contains a
  | part => 1 < part.length

/-- The cycles among components, each with its members in order. -/
def cyclicParts (g : ReferenceGraph) (parts : List (List String)) : List (List String) :=
  (parts.filter g.isCyclic).map fun part => part.mergeSort

namespace Components

variable {parts : List (List String)} (hparts : Components g parts) (h : Closed g)
include hparts

/-- A component is cyclic if a node of it, hence each of them, reaches itself. -/
theorem isCyclic_iff {part : List String} (hpart : part ∈ parts) (ha : a ∈ part) :
    g.isCyclic part = true ↔ g.Mutual a a := by
  rcases part with _ | ⟨first, _ | ⟨second, rest⟩⟩
  · cases ha
  · obtain rfl := List.mem_singleton.mp ha
    rw [isCyclic, List.contains_iff_mem]
    constructor
    · exact fun hedge => ⟨.single hedge, .single hedge⟩
    · rintro ⟨hself, -⟩
      -- the first step of the way back stays in the component
      obtain ⟨c, hedge, hback⟩ := TransGen.head'_iff.mp hself
      have hc := (hparts.mem_part_iff _ hpart a ha c).mpr ⟨.single hedge, hback⟩
      exact List.mem_singleton.mp hc ▸ hedge
  · have hcyclic : g.isCyclic (first :: second :: rest) = true :=
      decide_eq_true (Nat.succ_lt_succ (Nat.succ_pos rest.length))
    refine iff_of_true hcyclic ?_
    have hne : first ≠ second := by
      have hnodup := List.nodup_flatten.mp hparts.nodup |>.1 _ hpart
      exact fun heq => (List.nodup_cons.mp hnodup).1 (heq ▸ List.mem_cons_self)
    -- one of the two is another node than `a`
    obtain ⟨c, hc, hac⟩ : ∃ c ∈ first :: second :: rest, a ≠ c := by
      by_cases heq : a = first
      · exact ⟨second, by simp, heq ▸ hne⟩
      · exact ⟨first, by simp, heq⟩
    obtain ⟨hto, hback⟩ := (hparts.mem_part_iff _ hpart a ha c).mp hc
    have hto' := (reflTransGen_iff_eq_or_transGen.mp hto).resolve_left (Ne.symm hac)
    have hback' := (reflTransGen_iff_eq_or_transGen.mp hback).resolve_left hac
    exact ⟨hto'.trans hback', hto'.trans hback'⟩

include h

/-- A cyclic component, in order, is the cycle of each of its nodes. -/
theorem mergeSort_eq_cycleOf {part : List String} (hpart : part ∈ parts) (ha : a ∈ part)
    (hself : g.Mutual a a) : part.mergeSort = g.cycleOf a := by
  have hnodup : part.mergeSort.Nodup :=
    (List.mergeSort_perm part _).nodup_iff.mpr (List.nodup_flatten.mp hparts.nodup |>.1 _ hpart)
  have hsorted : part.mergeSort.Pairwise (· < ·) := by
    have hle : part.mergeSort.Pairwise fun a b => decide (a ≤ b) :=
      List.pairwise_mergeSort (by simpa using fun _ _ _ => String.le_trans)
        (by simpa using String.le_total) part
    refine (hle.and hnodup).imp fun {a b} hab => ?_
    exact Table.lt_of_ne_of_not_lt hab.2.symm
      (String.not_lt.mpr (of_decide_eq_true hab.1))
  refine eq_of_pairwise_lt hsorted (h.cycleOf_pairwise a) fun b => ?_
  rw [List.mem_mergeSort, h.mem_cycleOf_iff, hparts.mem_part_iff part hpart a ha]
  constructor
  · rintro ⟨hto, hback⟩
    rcases reflTransGen_iff_eq_or_transGen.mp hto with rfl | hto
    · exact hself
    · rcases reflTransGen_iff_eq_or_transGen.mp hback with rfl | hback
      · exact hself
      · exact ⟨hto, hback⟩
  · exact fun hab => ⟨hab.1.to_reflTransGen, hab.2.to_reflTransGen⟩

theorem mem_cyclicParts_iff {group : List String} :
    group ∈ g.cyclicParts parts ↔ group ∈ g.cycles := by
  rw [cyclicParts, List.mem_map, h.mem_cycles_iff]
  constructor
  · rintro ⟨part, hmem, rfl⟩
    obtain ⟨hpart, hcyclic⟩ := List.mem_filter.mp hmem
    obtain ⟨a, ha⟩ := List.exists_mem_of_ne_nil part (hparts.nonempty part hpart)
    have hself := (hparts.isCyclic_iff hpart ha).mp hcyclic
    exact ⟨a, hself, hparts.mergeSort_eq_cycleOf h hpart ha hself⟩
  · rintro ⟨a, hself, rfl⟩
    have hnode : a ∈ parts.flatten := (hparts.mem_nodes_iff a).mpr (h.mem_nodes_of_reaches hself.1)
    obtain ⟨part, hpart, ha⟩ := List.mem_flatten.mp hnode
    exact ⟨part, List.mem_filter.mpr ⟨hpart, (hparts.isCyclic_iff hpart ha).mpr hself⟩,
      hparts.mergeSort_eq_cycleOf h hpart ha hself⟩

/-- **The cycles are the cyclic components**, whatever order these come in. -/
theorem cyclicParts_perm : (g.cyclicParts parts).Perm g.cycles := by
  have hdistinct : (g.cyclicParts parts).Nodup := by
    rw [cyclicParts]
    refine List.pairwise_map.mpr (List.Pairwise.imp_of_mem ?_
      ((List.nodup_flatten.mp hparts.nodup).2.filter _))
    intro part part' hmem _ hapart heq
    obtain ⟨hpart, _⟩ := List.mem_filter.mp hmem
    obtain ⟨a, ha⟩ := List.exists_mem_of_ne_nil part (hparts.nonempty part hpart)
    have ha' : a ∈ part' := by
      have hsorted : a ∈ part.mergeSort := List.mem_mergeSort.mpr ha
      rw [heq] at hsorted
      exact List.mem_mergeSort.mp hsorted
    exact hapart ha ha'
  have hcycles : g.cycles.Nodup := by
    refine h.cycles_pairwise_lt.imp fun {group group'} hlt heq => ?_
    subst heq
    exact List.lt_irrefl group hlt
  exact (List.perm_ext_iff_of_nodup hdistinct hcycles).mpr fun _ => hparts.mem_cyclicParts_iff h

end Components

/-! ## 5. The graph of a registry -/

/-- A reference of a schema, one of `tokens`, stands for `target`, which the schema does not
    define itself. -/
def RefersOutside (o : ResolverOptions) (s : Schema) (tokens : List String) (target : String) :
    Prop :=
  s.definitions.contains target = false ∧
    ∃ token ∈ tokens, entityIdentifier token o.definitionsPrefix = target

/-- Dangling references are listed by source and then by target. -/
def Precedes (d d' : DanglingReference) : Prop :=
  d.source < d'.source ∨ d.source = d'.source ∧ d.target < d'.target

/-- The outside references of every entity are split into edges and dangling references; both are
    in order, so nothing is listed twice. -/
structure EdgesExact (o : ResolverOptions) (r : Registry) (g : ReferenceGraph) : Prop where
  split : ∀ name e, r.get? name = some e → e.hasSchema = true →
    ∃ s tokens, e.readSchema = .ok s ∧ s.refs o.maxDepth = .ok tokens ∧ ∀ target,
      (target ∈ g.referencesOf name ↔
        RefersOutside o s tokens target ∧ r.contains target = true) ∧
      (⟨name, target⟩ ∈ g.dangling ↔
        RefersOutside o s tokens target ∧ r.contains target = false)
  edges_sorted : ∀ name, (g.referencesOf name).Pairwise (· < ·)
  dangling_sorted : g.dangling.Pairwise Precedes
  dangling_source : ∀ d ∈ g.dangling, ∃ e, r.get? d.source = some e ∧ e.hasSchema = true

/-- The groups are the classes of entities that reach each other by a way of at least one edge, each
    listed once; they are the cyclic ones among the strongly connected components. -/
structure CyclesExact (g : ReferenceGraph) : Prop where
  common_iff : ∀ a b, (∃ group ∈ g.cycles, a ∈ group ∧ b ∈ group) ↔
    TransGen g.Edge a b ∧ TransGen g.Edge b a
  disjoint : g.cycles.Pairwise List.Disjoint
  members_sorted : ∀ group ∈ g.cycles, group.Pairwise (· < ·)
  groups_sorted : g.cycles.Pairwise (· < ·)
  components : ∀ parts, Components g parts → (g.cyclicParts parts).Perm g.cycles

theorem cyclesExact_of_closed {g : ReferenceGraph} (h : Closed g) : CyclesExact g where
  common_iff _ _ := h.exists_group_iff
  disjoint := h.cycles_disjoint
  members_sorted group hgroup := by
    obtain ⟨a, _, rfl⟩ := h.mem_cycles_iff.mp hgroup
    exact h.cycleOf_pairwise a
  groups_sorted := h.cycles_pairwise_lt
  components _ hparts := hparts.cyclicParts_perm h

section

variable {o : ResolverOptions} {r : Registry} {g : ReferenceGraph} (hr : r.Indexed)
  (h : ofRegistry o r = .ok g)
include hr h

theorem referencesOf_eq (name : String) : g.referencesOf name =
    ((r.get? name).map fun e => (outside o e).filter r.contains).getD [] := by
  obtain ⟨_, hreferences, _⟩ := ofRegistry_ok hr h
  rw [referencesOf, hreferences, Table.get?_map]

theorem closed_of_ofRegistry : Closed g where
  sorted := by
    obtain ⟨_, hreferences, _⟩ := ofRegistry_ok hr h
    rw [nodes, hreferences]
    exact List.pairwise_map.mpr (hr.sorted.map _)
  mem_nodes a b hedge := by
    obtain ⟨_, hreferences, _⟩ := ofRegistry_ok hr h
    rw [Edge, referencesOf_eq hr h] at hedge
    cases hget : r.get? a with
    | none =>
      rw [hget] at hedge
      cases hedge
    | some e =>
      rw [hget] at hedge
      obtain ⟨v, hv⟩ := Table.contains_iff.mp (List.mem_filter.mp hedge).2
      rw [nodes, hreferences, Table.mem_keys_iff, Table.contains_iff]
      exact ⟨_, (Table.get?_map _ r b).trans (congrArg _ hv)⟩

theorem mem_dangling_iff {d : DanglingReference} : d ∈ g.dangling ↔
    ∃ e, r.get? d.source = some e ∧ d.target ∈ outside o e ∧ r.contains d.target = false := by
  obtain ⟨_, _, hdangling⟩ := ofRegistry_ok hr h
  simp only [hdangling, List.mem_flatMap, danglingOf, List.mem_map, List.mem_filter,
    Bool.not_eq_eq_eq_not, Bool.not_true]
  constructor
  · rintro ⟨⟨name, e⟩, hentry, target, htarget, rfl⟩
    exact ⟨e, hr.sorted.get?_of_mem hentry, htarget⟩
  · rintro ⟨e, hget, htarget⟩
    exact ⟨(d.source, e), Table.mem_of_get? hget, d.target, htarget, rfl⟩

theorem dangling_pairwise : g.dangling.Pairwise Precedes := by
  obtain ⟨_, _, hdangling⟩ := ofRegistry_ok hr h
  rw [hdangling, List.pairwise_flatMap]
  constructor
  · intro entry _
    refine List.pairwise_map.mpr (((outside_pairwise o entry.2).filter _).imp ?_)
    exact fun hlt => Or.inr ⟨rfl, hlt⟩
  · refine hr.sorted.imp fun {entry entry'} hlt d hd d' hd' => ?_
    obtain ⟨_, _, rfl⟩ := List.mem_map.mp hd
    obtain ⟨_, _, rfl⟩ := List.mem_map.mp hd'
    exact Or.inl hlt

/-- **A reference graph is exact**, in its edges, its dangling references and its cycles. -/
theorem ofRegistry_exact : EdgesExact o r g ∧ CyclesExact g := by
  obtain ⟨htargets, _, _⟩ := ofRegistry_ok hr h
  refine ⟨⟨?_, fun name => ?_, dangling_pairwise hr h, fun d hd => ?_⟩,
    cyclesExact_of_closed (closed_of_ofRegistry hr h)⟩
  · intro name e hget hschema
    have hentry := Table.mem_of_get? hget
    obtain ⟨s, tokens, hread, hrefs, hmem⟩ := targetsOf_ok hschema (htargets _ hentry)
    refine ⟨s, tokens, hread, hrefs, fun target => ⟨?_, ?_⟩⟩
    · rw [referencesOf_eq hr h, hget, Option.map_some, Option.getD_some, List.mem_filter, hmem]
      exact Iff.rfl
    · rw [mem_dangling_iff hr h, RefersOutside, ← hmem]
      simp [hget]
  · rw [referencesOf_eq hr h]
    cases r.get? name with
    | none => exact List.Pairwise.nil
    | some e => exact (outside_pairwise o e).filter _
  · obtain ⟨e, hget, htarget, _⟩ := (mem_dangling_iff hr h).mp hd
    refine ⟨e, hget, ?_⟩
    by_contra hnone
    have hok := htargets _ (Table.mem_of_get? hget)
    rw [targetsOf, if_neg hnone] at hok
    rw [← Except.ok.inj hok] at htarget
    cases htarget

end

/-- Entities that refer to each other, to themselves, to nothing that is registered, and to a
    definition of their own that has the name of a registered entity. -/
def linkedEntities : List Entity :=
  [Registry.entityOf "Left" { items := some (.each (.schema (.reference "#/definitions/Right"))) },
    Registry.entityOf "Right" { anyOf :=
      [.schema (.reference "#/definitions/Left"), .schema (.reference "#/definitions/Ghost")] },
    Registry.entityOf "Node" { items := some (.each (.schema (.reference "#/definitions/Node"))) },
    Registry.entityOf "Leaf" { Schema.reference "#/definitions/Node" with
      definitions := ⟨[("Node", .flag true)]⟩ }]

def linkedGraph : ReferenceGraph where
  references := ⟨[("Leaf", []), ("Left", ["Right"]), ("Node", ["Node"]), ("Right", ["Left"])]⟩
  dangling := [⟨"Right", "Ghost"⟩]

theorem linkedGraph_exact :
    (Registry.ofEntities linkedEntities).Indexed ∧
    ofRegistry {} (Registry.ofEntities linkedEntities) = .ok linkedGraph ∧
    EdgesExact {} (Registry.ofEntities linkedEntities) linkedGraph ∧ CyclesExact linkedGraph := by
  have hindexed := Registry.indexed_ofEntities linkedEntities
  have hgraph : ofRegistry {} (Registry.ofEntities linkedEntities) = .ok linkedGraph := by
    decide +kernel
  exact ⟨hindexed, hgraph, ofRegistry_exact hindexed hgraph⟩

end SchemaCatalog.ReferenceGraph
