/-
  The tour of a document
  ======================
  **A walk meets every schema of a document once, and its limit is exact.**

  A schema of a document is known by its address: the steps that lead to it from
  the root.  The address of a schema that a walk can reach enters definitions with
  its first step or not at all, and its length is the depth of the schema.
  Addresses say nothing about walks, so they can be held against one: the tokens
  that a walk finds are the tokens at a list of addresses that has every reachable
  address once, each before those of the schemas below it, and the tree of the root
  before the definitions (`Tour`).

  The steps from a schema are enumerated by `steps`, and what they lead to is what the
  walk enumerates (`children_eq`).  Going down along them gives the addresses in
  the order of the walk (`addresses`), up to the number of levels that it may enter.
-/
import SchemaCatalog.Proofs.Schema.Addressing

namespace SchemaCatalog.Schema

/-! ## 1. Documents in order -/

/-- The names of properties and definitions are in order, each once, in the schema and in
    everything that it holds. -/
inductive InOrder : Schema → Prop where
  | intro {s : Schema} : s.properties.Sorted → s.definitions.Sorted →
      (∀ t, .schema t ∈ s.places → InOrder t) → InOrder s

namespace InOrder

variable {s : Schema} (h : s.InOrder)
include h

theorem properties_sorted : s.properties.Sorted := by
  cases h
  assumption

theorem definitions_sorted : s.definitions.Sorted := by
  cases h
  assumption

theorem places : ∀ t, .schema t ∈ s.places → t.InOrder := by
  cases h
  assumption

end InOrder

/-- What is read from JSON is in order. -/
theorem WellFormed.inOrder {s : Schema} (h : s.WellFormed) : s.InOrder := by
  induction h with
  | intro hproperties hdefinitions _ _ _ _ _ ih => exact .intro hproperties hdefinitions ih

/-! ## 2. Steps from a schema -/

/-- The schema to which a step leads. -/
def child? (s : Schema) (step : Step) : Option Schema := (s.place? step).bind Subschema.schema?

theorem node?_cons (s : Schema) (step : Step) (rest : List Step) :
    s.node? (step :: rest) = (s.child? step).bind (node? rest) := rfl

theorem child?_eq_some_iff {s c : Schema} {step : Step} :
    s.child? step = some c ↔ s.place? step = some (.schema c) := by
  rw [child?]
  rcases s.place? step with _ | (b | t) <;> simp [Subschema.schema?]

theorem mem_places_of_place? {s : Schema} {step : Step} {place : Subschema Schema}
    (h : s.place? step = some place) : place ∈ s.places := by
  have hvalue {t : Definitions} {name : String} (h : t.get? name = some place) :
      place ∈ t.values := List.mem_map.mpr ⟨_, Table.mem_of_get? h, rfl⟩
  cases step with
  | property name => simp [places, hvalue h]
  | definition name => simp [places, hvalue h]
  | items =>
    rcases hi : s.items with _ | (p | l) <;> simp_all [place?, places, itemPlaces]
  | item i =>
    rcases hi : s.items with _ | (p | l) <;> simp_all [place?, places, itemPlaces]
    simp [List.mem_of_getElem? h]
  | additionalItems | contains | additionalProperties | not =>
    rw [place?] at h
    simp [places, h]
  | allOf i | anyOf i | oneOf i => simp [places, List.mem_of_getElem? h]

theorem InOrder.child {s c : Schema} (h : s.InOrder) {step : Step} (hc : s.child? step = some c) :
    c.InOrder :=
  h.places c (mem_places_of_place? (child?_eq_some_iff.mp hc))

/-- The segment of a path that stands for a step. -/
def Step.segment : Step → String
  | property name => "properties" ++ "/" ++ name
  | items => "items"
  | item i => "items" ++ "/" ++ Nat.repr i
  | additionalItems => "additionalItems"
  | contains => "contains"
  | additionalProperties => "additionalProperties"
  | allOf i => "allOf" ++ "/" ++ Nat.repr i
  | anyOf i => "anyOf" ++ "/" ++ Nat.repr i
  | oneOf i => "oneOf" ++ "/" ++ Nat.repr i
  | not => "not"
  | definition name => "definitions" ++ "/" ++ name

def itemSteps : Option (Items Schema) → List Step
  | none => []
  | some (.each _) => [.items]
  | some (.tuple l) => (List.range l.length).map .item

/-- The steps from a schema that stay in its tree. -/
def steps (s : Schema) : List Step :=
  [.additionalItems] ++ itemSteps s.items ++ [.contains] ++ [.additionalProperties] ++
  s.properties.keys.map .property ++ (List.range s.allOf.length).map .allOf ++
  (List.range s.anyOf.length).map .anyOf ++ (List.range s.oneOf.length).map .oneOf ++ [.not]

/-- The steps to the definitions of a schema. -/
def definitionSteps (s : Schema) : List Step := s.definitions.keys.map .definition

/-- What the steps lead to, each schema with the segment that stands for its step. -/
def along (s : Schema) (steps : List Step) : List (String × Schema) :=
  steps.filterMap fun step => (s.child? step).map (step.segment, ·)

theorem along_append (s : Schema) (steps others : List Step) :
    s.along (steps ++ others) = s.along steps ++ s.along others :=
  List.filterMap_append

theorem childOf_eq (s : Schema) (step : Step) :
    childOf step.segment (s.place? step) = s.along [step] := by
  rw [along, List.filterMap_cons, child?]
  rcases s.place? step with _ | (b | c) <;> rfl

/-- The members of a list with their positions, read position by position. -/
theorem zipIdx_eq_filterMap {α : Type} (l : List α) :
    l.zipIdx = (List.range l.length).filterMap fun i => l[i]?.map (·, i) := by
  induction l using List.reverseRecOn with
  | nil => rfl
  | append_singleton l a ih =>
    have hbefore : ∀ i ∈ List.range l.length,
        (l[i]?.map (·, i) : Option (α × Nat)) = (l ++ [a])[i]?.map (·, i) := fun i hi => by
      rw [List.getElem?_append_left (List.mem_range.mp hi)]
    rw [List.zipIdx_append, ih, List.length_append, List.length_singleton, List.range_succ,
      List.filterMap_append, List.filterMap_congr hbefore]
    simp

theorem childrenOfList_eq {s : Schema} {keyword : String} {l : List (Subschema Schema)}
    {step : Nat → Step} (hplace : ∀ i, s.place? (step i) = l[i]?)
    (hsegment : ∀ i, (step i).segment = keyword ++ "/" ++ Nat.repr i) :
    childrenOfList keyword l = s.along ((List.range l.length).map step) := by
  rw [childrenOfList, zipIdx_eq_filterMap, List.filterMap_filterMap, along, List.filterMap_map]
  refine List.filterMap_congr fun i _ => ?_
  rw [Function.comp_apply, child?, hplace, hsegment]
  cases l[i]? <;> rfl

theorem childrenOfTable_eq {s : Schema} {keyword : String} {t : Definitions} {step : String → Step}
    (ht : t.Sorted) (hplace : ∀ name, s.place? (step name) = t.get? name)
    (hsegment : ∀ name, (step name).segment = keyword ++ "/" ++ name) :
    childrenOfTable keyword t = s.along (t.keys.map step) := by
  rw [childrenOfTable, along, Table.keys, List.map_map, List.filterMap_map]
  refine List.filterMap_congr fun e he => ?_
  rw [Function.comp_apply, Function.comp_apply, child?, hplace, ht.get?_of_mem he, hsegment]
  rfl

theorem childrenOfItems_eq (s : Schema) :
    childrenOfItems s.items = s.along (itemSteps s.items) := by
  rcases hi : s.items with _ | (place | l)
  · rfl
  · have hchild := childOf_eq s .items
    rw [place?, hi] at hchild
    exact hchild
  · exact childrenOfList_eq (fun i => by rw [place?, hi]) fun _ => rfl

/-- **What lies directly below a schema is what its steps lead to.** -/
theorem children_eq {s : Schema} (h : s.properties.Sorted) : s.children = s.along s.steps := by
  have hitem : childOf "additionalItems" s.additionalItems = _ := childOf_eq s .additionalItems
  have hcontains : childOf "contains" s.contains = _ := childOf_eq s .contains
  have hproperty : childOf "additionalProperties" s.additionalProperties = _ :=
    childOf_eq s .additionalProperties
  have hnot : childOf "not" s.not = _ := childOf_eq s .not
  have hproperties : childrenOfTable "properties" s.properties =
      s.along (s.properties.keys.map .property) :=
    childrenOfTable_eq h (fun _ => rfl) fun _ => rfl
  have hall : childrenOfList "allOf" s.allOf = s.along ((List.range s.allOf.length).map .allOf) :=
    childrenOfList_eq (fun _ => rfl) fun _ => rfl
  have hany : childrenOfList "anyOf" s.anyOf = s.along ((List.range s.anyOf.length).map .anyOf) :=
    childrenOfList_eq (fun _ => rfl) fun _ => rfl
  have hone : childrenOfList "oneOf" s.oneOf = s.along ((List.range s.oneOf.length).map .oneOf) :=
    childrenOfList_eq (fun _ => rfl) fun _ => rfl
  simp only [children, steps, along_append, childrenOfItems_eq, hitem, hcontains, hproperty,
    hproperties, hall, hany, hone, hnot]

theorem definitionChildren_eq {s : Schema} (h : s.definitions.Sorted) :
    s.definitionChildren = s.along s.definitionSteps :=
  childrenOfTable_eq h (fun _ => rfl) fun _ => rfl

/-- A step that stays in the tree and leads to a schema is one of the steps. -/
theorem mem_steps_of_child? {s c : Schema} {step : Step} (hstep : step.isDefinition = false)
    (hc : s.child? step = some c) : step ∈ s.steps := by
  have hplace := child?_eq_some_iff.mp hc
  have hposition {l : List (Subschema Schema)} {i : Nat} (h : l[i]? = some (.schema c)) :
      i ∈ List.range l.length := List.mem_range.mpr (List.getElem?_eq_some_iff.mp h).1
  cases step with
  | definition => cases hstep
  | additionalItems | contains | additionalProperties | not => simp [steps]
  | property name =>
    have hname : name ∈ s.properties.keys :=
      List.mem_map.mpr ⟨_, Table.mem_of_get? hplace, rfl⟩
    simp [steps, hname]
  | items | item i =>
    rcases hi : s.items with _ | (place | l) <;> rw [place?, hi] at hplace <;>
      simp_all [steps, itemSteps]
  | allOf i | anyOf i | oneOf i =>
    have hi := List.mem_range.mp (hposition hplace)
    simp [steps, hi]

theorem isDefinition_of_mem_steps {s : Schema} {step : Step} (h : step ∈ s.steps) :
    step.isDefinition = false := by
  have hitems : ∀ step ∈ itemSteps s.items, step.isDefinition = false := by
    rcases s.items with _ | (place | l) <;> simp [itemSteps, Step.isDefinition]
  have hsteps : ∀ step ∈ s.steps, step.isDefinition = false := by
    simpa [steps, or_imp, forall_and, Step.isDefinition] using hitems
  exact hsteps step h

/-- No step is enumerated twice. -/
theorem nodup_steps {s : Schema} (h : s.properties.Sorted) : s.steps.Nodup := by
  have hproperty : (s.properties.keys.map Step.property).Nodup :=
    h.nodup_keys.map fun _ _ => Step.property.inj
  have hpositions {step : Nat → Step} (hstep : Function.Injective step) (n : Nat) :
      ((List.range n).map step).Nodup := List.nodup_range.map hstep
  have hitem := hpositions fun _ _ => Step.item.inj
  have hall := hpositions fun _ _ => Step.allOf.inj
  have hany := hpositions fun _ _ => Step.anyOf.inj
  have hone := hpositions fun _ _ => Step.oneOf.inj
  rcases hi : s.items with _ | (place | l) <;>
    simp [steps, itemSteps, hi, List.nodup_append, hproperty, hitem, hall, hany, hone] <;> grind

/-! ## 3. Addresses -/

/-- The address leads to a schema in the tree of `s`: none of its steps enters definitions. -/
def InTree (s : Schema) (path : List Step) : Prop := Descends path ∧ (s.node? path).isSome

theorem inTree_nil (s : Schema) : s.InTree [] := ⟨fun _ => nofun, rfl⟩

theorem isSome_node?_cons_iff {s : Schema} {step : Step} {rest : List Step} :
    (s.node? (step :: rest)).isSome ↔ ∃ c, s.child? step = some c ∧ (c.node? rest).isSome := by
  rw [node?_cons]
  cases s.child? step with
  | none => simp
  | some c => simp

/-- An address in a tree is a step to a schema and an address in its tree. -/
theorem inTree_cons_iff {s : Schema} {step : Step} {rest : List Step} :
    s.InTree (step :: rest) ↔
      step ∈ s.steps ∧ ∃ c, s.child? step = some c ∧ c.InTree rest := by
  constructor
  · rintro ⟨hdescends, hnode⟩
    obtain ⟨hstep, hrest⟩ := List.forall_mem_cons.mp hdescends
    obtain ⟨c, hc, hnode⟩ := isSome_node?_cons_iff.mp hnode
    exact ⟨mem_steps_of_child? hstep hc, c, hc, hrest, hnode⟩
  · rintro ⟨hstep, c, hc, hrest, hnode⟩
    exact ⟨List.forall_mem_cons.mpr ⟨isDefinition_of_mem_steps hstep, hrest⟩,
      isSome_node?_cons_iff.mpr ⟨c, hc, hnode⟩⟩

/-- The addresses that begin with one of the steps and go on as `below` says. -/
def through (below : Schema → List (List Step)) (s : Schema) (steps : List Step) :
    List (List Step) :=
  steps.flatMap fun step => ((s.child? step).elim [] below).map (step :: ·)

/-- The addresses in the tree of a schema, down to `levels` levels, in the order of a walk. -/
def addresses : Nat → Schema → List (List Step)
  | 0, _ => []
  | levels + 1, s => [] :: through (addresses levels) s s.steps

theorem mem_through_iff {below : Schema → List (List Step)} {s : Schema} {steps : List Step}
    {path : List Step} :
    path ∈ through below s steps ↔
      ∃ step ∈ steps, ∃ c, s.child? step = some c ∧ ∃ rest ∈ below c, path = step :: rest := by
  simp only [through, List.mem_flatMap, List.mem_map]
  refine exists_congr fun step => and_congr_right fun _ => ?_
  cases s.child? step with
  | none => simp
  | some c => simp [eq_comm]

/-- **The addresses are those in the tree that are short enough.** -/
theorem mem_addresses_iff {levels : Nat} {s : Schema} {path : List Step} :
    path ∈ addresses levels s ↔ path.length < levels ∧ s.InTree path := by
  induction levels generalizing s path with
  | zero => simp [addresses]
  | succ levels ih =>
    rw [addresses, List.mem_cons, mem_through_iff]
    cases path with
    | nil => simp [inTree_nil]
    | cons step rest =>
      rw [inTree_cons_iff]
      constructor
      · rintro (h | ⟨_, hstep, c, hc, _, hrest, ⟨⟩⟩)
        · cases h
        · obtain ⟨hlength, htree⟩ := ih.mp hrest
          exact ⟨Nat.succ_lt_succ hlength, hstep, c, hc, htree⟩
      · rintro ⟨hlength, hstep, c, hc, htree⟩
        have hrest := ih.mpr ⟨Nat.lt_of_succ_lt_succ hlength, htree⟩
        exact Or.inr ⟨step, hstep, c, hc, rest, hrest, rfl⟩

/-- Addresses in which none comes after one that lies below it, and none comes twice. -/
abbrev DescendsLast (paths : List (List Step)) : Prop := paths.Pairwise fun a b => ¬ b <+: a

theorem pairwise_through {below : Schema → List (List Step)} {s : Schema} {steps : List Step}
    (hsteps : steps.Nodup) (hbelow : ∀ step c, s.child? step = some c → DescendsLast (below c)) :
    DescendsLast (through below s steps) := by
  refine List.pairwise_flatMap.mpr ⟨fun step _ => ?_, hsteps.imp fun hne => ?_⟩
  · cases hc : s.child? step with
    | none => exact .nil
    | some c =>
      refine List.pairwise_map.mpr ((hbelow step c hc).imp fun hab hba => hab ?_)
      exact (List.cons_prefix_cons.mp hba).2
  · rintro a ha b hb hba
    obtain ⟨_, _, rfl⟩ := List.mem_map.mp ha
    obtain ⟨_, _, rfl⟩ := List.mem_map.mp hb
    exact hne (List.cons_prefix_cons.mp hba).1.symm

/-- **An address comes before those that go on from it.** -/
theorem pairwise_addresses {levels : Nat} {s : Schema} (h : s.InOrder) :
    DescendsLast (addresses levels s) := by
  induction levels generalizing s with
  | zero => exact .nil
  | succ levels ih =>
    refine List.pairwise_cons.mpr ⟨fun path hpath hba => ?_,
      pairwise_through (nodup_steps h.properties_sorted) fun step c hc => ih (h.child hc)⟩
    obtain ⟨step, _, c, _, rest, _, rfl⟩ := mem_through_iff.mp hpath
    exact List.cons_ne_nil _ _ (List.prefix_nil.mp hba)

/-! ## 4. Walks along the addresses -/

theorem mem_along_iff {s : Schema} {steps : List Step} {e : String × Schema} :
    e ∈ s.along steps ↔ ∃ step ∈ steps, ∃ c, s.child? step = some c ∧ (step.segment, c) = e := by
  simp only [along, List.mem_filterMap, Option.map_eq_some_iff]

/-- Walks along the steps visit what stands at the addresses that begin with the steps, if that
    is so for the walk that begins with any of them. -/
theorem visited_walkAll_along {walk : List String → Schema → Walk} {path : List String}
    {below : Schema → List (List Step)} {s : Schema} {steps : List Step}
    (h : (walkAll walk path (s.along steps)).exceeded = none)
    (hbelow : ∀ step ∈ steps, ∀ c, s.child? step = some c →
      (walk (path ++ [step.segment]) c).visited = (below c).filterMap (node? · c)) :
    (walkAll walk path (s.along steps)).visited =
      (through below s steps).filterMap (node? · s) := by
  rw [walkAll_visited_eq h, through, List.filterMap_flatMap, along,
    List.filterMap_eq_flatMap_toList, List.flatMap_assoc]
  refine List.flatMap_congr fun step hstep => ?_
  cases hc : s.child? step with
  | none => rfl
  | some c =>
    have hnode : (node? · s) ∘ (step :: ·) = (node? · c) := by
      funext rest
      rw [Function.comp_apply, node?_cons, hc, Option.bind_some]
    rw [Option.elim_some, List.filterMap_map, hnode, ← hbelow step hstep c hc]
    exact List.append_nil _

/-- **A walk of a tree that stays within its depth visits what stands at the addresses, in their
    order.** -/
theorem visited_walkTree {levels : Nat} {path : List String} {s : Schema} (hs : s.InOrder)
    (h : (walkTree levels path s).exceeded = none) :
    (walkTree levels path s).visited = (addresses levels s).filterMap (node? · s) := by
  induction levels generalizing path s with
  | zero => cases h
  | succ levels ih =>
    rw [walkTree, children_eq hs.properties_sorted] at h ⊢
    have heach := walkAll_exceeded_eq_none_iff.mp h
    rw [addresses, List.filterMap_cons]
    refine congrArg (s :: ·) (visited_walkAll_along h fun step hstep c hc => ?_)
    exact ih (hs.child hc) (heach _ (mem_along_iff.mpr ⟨step, hstep, c, hc, rfl⟩))

/-- **A walk of a tree that exceeds its depth ends at an address one level too deep.** -/
theorem exists_inTree_of_exceeded {levels : Nat} {path last : List String} {s : Schema}
    (hs : s.InOrder) (h : (walkTree levels path s).exceeded = some last) :
    ∃ steps, s.InTree steps ∧ steps.length = levels ∧ last = path ++ steps.map Step.segment := by
  induction levels generalizing path s with
  | zero =>
    refine ⟨[], s.inTree_nil, rfl, ?_⟩
    rw [List.map_nil, List.append_nil, ← Option.some.inj h]
  | succ levels ih =>
    rw [walkTree, children_eq hs.properties_sorted] at h
    obtain ⟨e, he, hlast⟩ := List.exists_of_findSome?_eq_some (walkAll_exceeded_eq ▸ h)
    obtain ⟨step, hstep, c, hc, rfl⟩ := mem_along_iff.mp he
    obtain ⟨steps, htree, hlength, rfl⟩ := ih (hs.child hc) hlast
    refine ⟨step :: steps, inTree_cons_iff.mpr ⟨hstep, c, hc, htree⟩, congrArg (· + 1) hlength, ?_⟩
    rw [List.append_assoc, List.map_cons, List.singleton_append]

/-- **A walk of a tree stays within its depth if nothing in the tree lies deeper.** -/
theorem walkTree_exceeded_eq_none_iff {levels : Nat} {path : List String} {s : Schema}
    (hs : s.InOrder) :
    (walkTree levels path s).exceeded = none ↔
      ∀ steps, s.InTree steps → steps.length < levels := by
  constructor
  · intro h steps
    induction levels generalizing path s steps with
    | zero => cases h
    | succ levels ih =>
      rw [walkTree, children_eq hs.properties_sorted] at h
      intro htree
      cases steps with
      | nil => exact Nat.succ_pos levels
      | cons step rest =>
        obtain ⟨hstep, c, hc, hrest⟩ := inTree_cons_iff.mp htree
        have hwalk := walkAll_exceeded_eq_none_iff.mp h _
          (mem_along_iff.mpr ⟨step, hstep, c, hc, rfl⟩)
        exact Nat.succ_lt_succ (ih (hs.child hc) hwalk rest hrest)
  · intro h
    cases hwalk : (walkTree levels path s).exceeded with
    | none => rfl
    | some last =>
      obtain ⟨steps, htree, hlength, -⟩ := exists_inTree_of_exceeded hs hwalk
      exact absurd (h steps htree) (by omega)

/-! ## 5. Documents -/

/-- A walk of the document can come to this address: it enters definitions with its first step or
    not at all, and leads to a schema.  The depth of the schema is the length of the address. -/
def Reachable (s : Schema) (path : List Step) : Prop :=
  Descends path.tail ∧ (s.node? path).isSome

/-- **Every reachable address once**, none after one that goes on from it, and the tree of the root
    before the definitions. -/
structure IsTour (s : Schema) (paths : List (List Step)) : Prop where
  mem_iff : ∀ path, path ∈ paths ↔ s.Reachable path
  nodup : paths.Nodup
  descendsLast : DescendsLast paths
  rootFirst : paths.Pairwise fun a b => Descends b → Descends a

theorem mem_definitionSteps_iff {s : Schema} {step : Step} :
    step ∈ s.definitionSteps ↔ ∃ name ∈ s.definitions.keys, .definition name = step :=
  List.mem_map

/-- An address is reachable in the tree of the root or in that of one of its definitions. -/
theorem reachable_iff {s : Schema} {path : List Step} :
    s.Reachable path ↔ s.InTree path ∨
      ∃ step ∈ s.definitionSteps, ∃ d, s.child? step = some d ∧
        ∃ rest, d.InTree rest ∧ path = step :: rest := by
  constructor
  · rintro ⟨hdescends, hnode⟩
    cases path with
    | nil => exact Or.inl s.inTree_nil
    | cons step rest =>
      cases hstep : step.isDefinition with
      | false => exact Or.inl ⟨List.forall_mem_cons.mpr ⟨hstep, hdescends⟩, hnode⟩
      | true =>
        obtain ⟨d, hd, hfound⟩ := isSome_node?_cons_iff.mp hnode
        cases step with
        | definition name =>
          have hname : name ∈ s.definitions.keys :=
            List.mem_map.mpr ⟨_, Table.mem_of_get? (child?_eq_some_iff.mp hd), rfl⟩
          exact Or.inr ⟨_, mem_definitionSteps_iff.mpr ⟨name, hname, rfl⟩, d, hd, rest,
            ⟨hdescends, hfound⟩, rfl⟩
        | _ => cases hstep
  · rintro (⟨hdescends, hnode⟩ | ⟨step, -, d, hd, rest, ⟨hdescends, hnode⟩, rfl⟩)
    · exact ⟨fun step hstep => hdescends step (List.mem_of_mem_tail hstep), hnode⟩
    · exact ⟨hdescends, isSome_node?_cons_iff.mpr ⟨d, hd, hnode⟩⟩

/-- The reachable addresses down to depth `maxDepth`, in the order of a walk. -/
def tour (maxDepth : Nat) (s : Schema) : List (List Step) :=
  addresses (maxDepth + 1) s ++ through (addresses maxDepth) s s.definitionSteps

theorem mem_through_definitionSteps_iff {maxDepth : Nat} {s : Schema} {path : List Step} :
    path ∈ through (addresses maxDepth) s s.definitionSteps ↔ path.length ≤ maxDepth ∧
      ∃ step ∈ s.definitionSteps, ∃ d, s.child? step = some d ∧
        ∃ rest, d.InTree rest ∧ path = step :: rest := by
  simp only [mem_through_iff, mem_addresses_iff]
  constructor
  · rintro ⟨step, hstep, d, hd, rest, ⟨hlength, hrest⟩, rfl⟩
    exact ⟨hlength, step, hstep, d, hd, rest, hrest, rfl⟩
  · rintro ⟨hlength, step, hstep, d, hd, rest, hrest, rfl⟩
    exact ⟨step, hstep, d, hd, rest, ⟨hlength, hrest⟩, rfl⟩

theorem mem_tour_iff {maxDepth : Nat} {s : Schema} {path : List Step} :
    path ∈ tour maxDepth s ↔ path.length ≤ maxDepth ∧ s.Reachable path := by
  rw [tour, List.mem_append, mem_addresses_iff, mem_through_definitionSteps_iff, reachable_iff,
    Nat.lt_succ_iff, and_or_left]

theorem not_descends_of_mem_through {below : Schema → List (List Step)} {s : Schema}
    {path : List Step} (h : path ∈ through below s s.definitionSteps) : ¬ Descends path := by
  obtain ⟨step, hstep, _, _, rest, _, rfl⟩ := mem_through_iff.mp h
  obtain ⟨name, _, rfl⟩ := mem_definitionSteps_iff.mp hstep
  intro hdescends
  cases hdescends _ List.mem_cons_self

theorem nodup_definitionSteps {s : Schema} (h : s.definitions.Sorted) : s.definitionSteps.Nodup :=
  h.nodup_keys.map fun _ _ => Step.definition.inj

theorem descendsLast_tour {maxDepth : Nat} {s : Schema} (hs : s.InOrder) :
    DescendsLast (tour maxDepth s) := by
  have hdefinitions : DescendsLast (through (addresses maxDepth) s s.definitionSteps) :=
    pairwise_through (nodup_definitionSteps hs.definitions_sorted) fun _ _ hd =>
      pairwise_addresses (hs.child hd)
  refine List.pairwise_append.mpr ⟨pairwise_addresses hs, hdefinitions, ?_⟩
  intro a ha b hb hba
  obtain ⟨-, hdescends, -⟩ := mem_addresses_iff.mp ha
  exact not_descends_of_mem_through hb fun step hstep => hdescends step (hba.subset hstep)

theorem rootFirst_tour (maxDepth : Nat) (s : Schema) :
    (tour maxDepth s).Pairwise fun a b => Descends b → Descends a := by
  have hroot {a : List Step} (ha : a ∈ addresses (maxDepth + 1) s) : Descends a :=
    (mem_addresses_iff.mp ha).2.1
  refine List.pairwise_append.mpr ⟨?_, ?_, fun a ha _ _ _ => hroot ha⟩
  · exact List.pairwise_of_forall_mem_list fun a ha _ _ _ => hroot ha
  · exact List.pairwise_of_forall_mem_list fun _ _ b hb hdescends =>
      absurd hdescends (not_descends_of_mem_through hb)

theorem isTour_tour {maxDepth : Nat} {s : Schema} (hs : s.InOrder)
    (h : ∀ path, s.Reachable path → path.length ≤ maxDepth) : s.IsTour (tour maxDepth s) where
  mem_iff path := mem_tour_iff.trans (and_iff_right_of_imp (h path))
  nodup := (descendsLast_tour hs).imp fun hab => by
    rintro rfl
    exact hab List.prefix_rfl
  descendsLast := descendsLast_tour hs
  rootFirst := rootFirst_tour maxDepth s

/-- **A walk stays within its depth if nothing reachable lies deeper.** -/
theorem walk_exceeded_iff {maxDepth : Nat} {s : Schema} (hs : s.InOrder) :
    (s.walk maxDepth).exceeded = none ↔ ∀ path, s.Reachable path → path.length ≤ maxDepth := by
  rw [walk_exceeded_eq_none_iff, walkTree_exceeded_eq_none_iff hs,
    definitionChildren_eq hs.definitions_sorted, walkAll_exceeded_eq_none_iff]
  constructor
  · rintro ⟨htree, hdefinitions⟩ path hpath
    rcases reachable_iff.mp hpath with hroot | ⟨step, hstep, d, hd, rest, hrest, rfl⟩
    · exact Nat.le_of_lt_succ (htree path hroot)
    · have hwalk := hdefinitions _ (mem_along_iff.mpr ⟨step, hstep, d, hd, rfl⟩)
      exact (walkTree_exceeded_eq_none_iff (hs.child hd)).mp hwalk rest hrest
  · intro h
    refine ⟨fun path hroot => ?_, fun e he => ?_⟩
    · exact Nat.lt_succ_of_le (h path (reachable_iff.mpr (Or.inl hroot)))
    · obtain ⟨step, hstep, d, hd, rfl⟩ := mem_along_iff.mp he
      refine (walkTree_exceeded_eq_none_iff (hs.child hd)).mpr fun rest hrest => ?_
      exact h (step :: rest) (reachable_iff.mpr (Or.inr ⟨step, hstep, d, hd, rest, hrest, rfl⟩))

/-- **A walk within its depth visits what stands at the addresses of the tour.** -/
theorem visited_walk {maxDepth : Nat} {s : Schema} (hs : s.InOrder)
    (h : (s.walk maxDepth).exceeded = none) :
    (s.walk maxDepth).visited = (tour maxDepth s).filterMap (node? · s) := by
  obtain ⟨htree, hdefinitions⟩ := walk_exceeded_eq_none_iff.mp h
  rw [definitionChildren_eq hs.definitions_sorted] at hdefinitions
  have heach := walkAll_exceeded_eq_none_iff.mp hdefinitions
  rw [walk_visited_eq htree, definitionChildren_eq hs.definitions_sorted, tour,
    List.filterMap_append, visited_walkTree hs htree,
    visited_walkAll_along hdefinitions fun step hstep d hd =>
      visited_walkTree (hs.child hd) (heach _ (mem_along_iff.mpr ⟨step, hstep, d, hd, rfl⟩))]

/-- **A walk that exceeds its depth ends at a reachable address one level too deep.** -/
theorem exists_reachable_of_exceeded {maxDepth : Nat} {s : Schema} {last : List String}
    (hs : s.InOrder) (h : (s.walk maxDepth).exceeded = some last) :
    ∃ path, s.Reachable path ∧ path.length = maxDepth + 1 ∧ last = path.map Step.segment := by
  rw [walk_exceeded_eq, definitionChildren_eq hs.definitions_sorted, Option.or_eq_some_iff] at h
  rcases h with h | ⟨-, h⟩
  · obtain ⟨path, hroot, hlength, rfl⟩ := exists_inTree_of_exceeded hs h
    exact ⟨path, reachable_iff.mpr (Or.inl hroot), hlength, List.nil_append _⟩
  · obtain ⟨e, he, hlast⟩ := List.exists_of_findSome?_eq_some (walkAll_exceeded_eq ▸ h)
    obtain ⟨step, hstep, d, hd, rfl⟩ := mem_along_iff.mp he
    obtain ⟨rest, hrest, hlength, rfl⟩ := exists_inTree_of_exceeded (hs.child hd) hlast
    exact ⟨step :: rest, reachable_iff.mpr (Or.inr ⟨step, hstep, d, hd, rest, hrest, rfl⟩),
      congrArg (· + 1) hlength, rfl⟩

/-- **The references found are those of a tour, and the limit is exact**: they are found if nothing
    reachable lies deeper than the limit, and otherwise the error names an address that lies one
    level too deep. -/
theorem refs_tour {s : Schema} (hs : s.InOrder) (maxDepth : Nat) :
    ((∃ tokens, s.refs maxDepth = .ok tokens) ↔
      ∀ path, s.Reachable path → path.length ≤ maxDepth) ∧
    (∀ tokens, s.refs maxDepth = .ok tokens →
      ∃ paths, s.IsTour paths ∧ tokens = paths.filterMap fun path => (s.node? path).bind ref) ∧
    ∀ error, s.refs maxDepth = .error error →
      ∃ path, s.Reachable path ∧ path.length = maxDepth + 1 ∧
        error = .depthLimit (pathText (path.map Step.segment)) maxDepth := by
  refine ⟨?_, ?_, ?_⟩
  · rw [← walk_exceeded_iff hs]
    simp only [refs_ok_iff, exists_and_left, exists_eq', and_true]
  · intro tokens htokens
    obtain ⟨hwalk, rfl⟩ := refs_ok_iff.mp htokens
    refine ⟨tour maxDepth s, isTour_tour hs ((walk_exceeded_iff hs).mp hwalk), ?_⟩
    rw [visited_walk hs hwalk, List.filterMap_filterMap]
  · intro error herror
    cases hwalk : (s.walk maxDepth).exceeded with
    | none =>
      simp only [refs, hwalk] at herror
      cases herror
    | some last =>
      simp only [refs, hwalk] at herror
      obtain ⟨path, hpath, hlength, rfl⟩ := exists_reachable_of_exceeded hs hwalk
      exact ⟨path, hpath, hlength, (Except.error.inj herror).symm⟩

/-! ## 6. An owner of pets -/

/-- A pet, with a definition of its own that no walk enters. -/
def petDefinition : Schema where
  allOf := [.schema (.reference "#/definitions/Owner")]
  definitions := ⟨[("Collar", .schema (.reference "#/definitions/Tag"))]⟩

/-- A list of one pet and anything else. -/
def petItems : Schema where
  items := some (.tuple [.schema (.reference "#/definitions/Pet"), .flag true])

def ownerSchema : Schema where
  properties := ⟨[("pets", .schema petItems)]⟩
  not := some (.flag false)
  definitions := ⟨[("Owner", .schema (.reference "#")), ("Pet", .schema petDefinition)]⟩

theorem inOrder_reference (token : String) : (reference token).InOrder :=
  .intro .nil .nil (by simp [reference, places, itemPlaces, Table.values])

theorem ownerSchema_inOrder : ownerSchema.InOrder := by
  have hpet : petDefinition.InOrder := .intro .nil (by decide) (by
    simp [petDefinition, places, itemPlaces, Table.values, inOrder_reference])
  have hitems : petItems.InOrder := .intro .nil .nil (by
    simp [petItems, places, itemPlaces, Table.values, inOrder_reference])
  exact .intro (by decide) (by decide) (by
    simp [ownerSchema, places, itemPlaces, Table.values, inOrder_reference, hpet, hitems])

/-- Down to depth two there are three references; the first of them that lies deeper than one is
    that of the pet in the list. -/
theorem ownerSchema_refs_tour :
    ownerSchema.InOrder ∧
    (∃ paths, ownerSchema.IsTour paths ∧
      (paths.filterMap fun path => (ownerSchema.node? path).bind ref) =
        ["#/definitions/Pet", "#", "#/definitions/Owner"]) ∧
    (∃ path, ownerSchema.Reachable path ∧ path.length = 2 ∧
      pathText (path.map Step.segment) = "#/properties/pets/items/0") := by
  have hdeep : ownerSchema.refs 2 = .ok ["#/definitions/Pet", "#", "#/definitions/Owner"] := by
    decide
  have hshallow : ownerSchema.refs 1 = .error (.depthLimit "#/properties/pets/items/0" 1) := by
    decide
  obtain ⟨-, htokens, -⟩ := refs_tour ownerSchema_inOrder 2
  obtain ⟨paths, htour, heq⟩ := htokens _ hdeep
  obtain ⟨-, -, herror⟩ := refs_tour ownerSchema_inOrder 1
  obtain ⟨path, hpath, hlength, hlimit⟩ := herror _ hshallow
  exact ⟨ownerSchema_inOrder, ⟨paths, htour, heq.symm⟩, path, hpath, hlength,
    (SchemaError.depthLimit.inj hlimit).1.symm⟩

end SchemaCatalog.Schema
