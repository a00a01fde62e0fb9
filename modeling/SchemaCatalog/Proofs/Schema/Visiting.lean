/-
  What a walk visits
  ==================
  **A walk that stays within its depth visits every schema of the document, and
  nothing else.**

  `Within s t` says that `t` is `s` or lies below it, where definitions are not
  entered; `Occurs s t` adds the trees of the definitions of `s` itself.  A walk
  that does not exceed its depth has visited exactly the schemas that occur
  (`mem_walk_visited_iff`), so the depth decides whether the references of a
  document are found, but not which (`mem_refs_iff`).  For every document some
  depth is enough (`exists_refs_ok`).
-/
import SchemaCatalog.Schema.Walk
import SchemaCatalog.Proofs.Schema.WellFormed

namespace SchemaCatalog.Schema

/-! ## 1. Schemas below a schema -/

/-- The schema `t` is `s` or lies below it; definitions are not entered. -/
inductive Within : Schema → Schema → Prop where
  | self (s : Schema) : Within s s
  | deeper {s c t : Schema} {segment : String} : (segment, c) ∈ s.children → Within c t →
      Within s t

/-- The schema `t` is part of the document `s`: of its tree, or of that of one of its
    definitions. -/
def Occurs (s t : Schema) : Prop :=
  Within s t ∨ ∃ name e, (name, .schema e) ∈ s.definitions.entries ∧ Within e t

theorem eq_of_mem_childOf {keyword segment : String} {place : Option (Subschema Schema)}
    {c : Schema} (h : (segment, c) ∈ childOf keyword place) : place = some (.schema c) := by
  rcases place with _ | (b | s)
  · cases h
  · cases h
  · simp only [childOf, List.mem_singleton, Prod.mk.injEq] at h
    rw [h.2]

theorem mem_of_mem_childrenOfList {keyword segment : String} {l : List (Subschema Schema)}
    {c : Schema} (h : (segment, c) ∈ childrenOfList keyword l) : .schema c ∈ l := by
  simp only [childrenOfList, List.mem_filterMap] at h
  obtain ⟨⟨place, i⟩, hmem, h⟩ := h
  rcases place with b | s
  · cases h
  · cases h
    exact List.mem_of_getElem? (List.mem_zipIdx_iff_getElem?.mp hmem)

theorem mem_childrenOfList_iff {keyword : String} {l : List (Subschema Schema)} {c : Schema} :
    (∃ segment, (segment, c) ∈ childrenOfList keyword l) ↔ .schema c ∈ l := by
  constructor
  · rintro ⟨segment, h⟩
    exact mem_of_mem_childrenOfList h
  · intro h
    obtain ⟨i, hi⟩ := List.mem_iff_getElem?.mp h
    simp only [childrenOfList, List.mem_filterMap]
    exact ⟨_, (.schema c, i), List.mem_zipIdx_iff_getElem?.mpr hi, rfl⟩

theorem mem_childrenOfTable_iff {keyword : String} {t : Definitions} {c : Schema} :
    (∃ segment, (segment, c) ∈ childrenOfTable keyword t) ↔
      ∃ name, (name, .schema c) ∈ t.entries := by
  simp only [childrenOfTable, List.mem_filterMap]
  constructor
  · rintro ⟨segment, ⟨name, place⟩, hmem, h⟩
    rcases place with b | s
    · cases h
    · cases h
      exact ⟨name, hmem⟩
  · rintro ⟨name, hmem⟩
    exact ⟨_, (name, .schema c), hmem, rfl⟩

/-- What lies directly below a schema stands in one of its places. -/
theorem mem_places_of_mem_children {s c : Schema} {segment : String}
    (h : (segment, c) ∈ s.children) : .schema c ∈ s.places := by
  have hproperties (h : (segment, c) ∈ childrenOfTable "properties" s.properties) :
      .schema c ∈ s.properties.values := by
    obtain ⟨name, hmem⟩ := mem_childrenOfTable_iff.mp ⟨segment, h⟩
    exact List.mem_map.mpr ⟨_, hmem, rfl⟩
  have hitems (h : (segment, c) ∈ childrenOfItems s.items) : .schema c ∈ itemPlaces s.items := by
    rcases hi : s.items with _ | (place | l)
    · rw [hi] at h
      cases h
    · rw [hi] at h
      cases eq_of_mem_childOf h
      exact List.mem_singleton.mpr rfl
    · rw [hi] at h
      exact mem_of_mem_childrenOfList h
  simp only [children, List.mem_append] at h
  simp only [places, List.mem_append, Option.mem_toList]
  rcases h with (((((((h | h) | h) | h) | h) | h) | h) | h) | h
  · simp [eq_of_mem_childOf h]
  · simp [hitems h]
  · simp [eq_of_mem_childOf h]
  · simp [eq_of_mem_childOf h]
  · simp [hproperties h]
  · simp [mem_of_mem_childrenOfList h]
  · simp [mem_of_mem_childrenOfList h]
  · simp [mem_of_mem_childrenOfList h]
  · simp [eq_of_mem_childOf h]

theorem Within.trans {s t u : Schema} (h : Within s t) (h' : Within t u) : Within s u := by
  induction h with
  | self => exact h'
  | deeper hc _ ih => exact .deeper hc (ih h')

theorem Occurs.within {s t u : Schema} (h : s.Occurs t) (h' : Within t u) : s.Occurs u := by
  rcases h with h | ⟨name, e, he, h⟩
  · exact Or.inl (h.trans h')
  · exact Or.inr ⟨name, e, he, h.trans h'⟩

theorem sizeOf_lt_of_mem_list {l : List (Subschema Schema)} {c : Schema}
    (h : .schema c ∈ l) : sizeOf c < sizeOf l := by
  have hlt := List.sizeOf_lt_of_mem h
  rw [Subschema.schema.sizeOf_spec] at hlt
  omega

theorem sizeOf_lt_of_mem_toList {place : Option (Subschema Schema)} {c : Schema}
    (h : .schema c ∈ place.toList) : sizeOf c < sizeOf place := by
  rw [Option.mem_toList] at h
  obtain rfl : place = some (.schema c) := h
  rw [Option.some.sizeOf_spec, Subschema.schema.sizeOf_spec]
  omega

theorem sizeOf_lt_of_mem_values {t : Definitions} {c : Schema}
    (h : .schema c ∈ t.values) : sizeOf c < sizeOf t := by
  obtain ⟨⟨name, place⟩, hmem, rfl⟩ := List.mem_map.mp h
  have hlt := List.sizeOf_lt_of_mem hmem
  obtain ⟨entries⟩ := t
  rw [Prod.mk.sizeOf_spec, Subschema.schema.sizeOf_spec] at hlt
  rw [Table.mk.sizeOf_spec]
  dsimp only at hlt
  omega

theorem sizeOf_lt_of_mem_itemPlaces {items : Option (Items Schema)} {c : Schema}
    (h : .schema c ∈ itemPlaces items) : sizeOf c < sizeOf items := by
  rcases items with _ | (place | l)
  · cases h
  · cases List.mem_singleton.mp h
    rw [Option.some.sizeOf_spec, Items.each.sizeOf_spec, Subschema.schema.sizeOf_spec]
    omega
  · have hlt : sizeOf c < sizeOf l := sizeOf_lt_of_mem_list h
    rw [Option.some.sizeOf_spec, Items.tuple.sizeOf_spec]
    omega

theorem sizeOf_lt_of_mem_places {s c : Schema} (h : .schema c ∈ s.places) :
    sizeOf c < sizeOf s := by
  obtain ⟨r, t, p, i, ai, ct, ap, all, any, one, n, d, rq, ex, x⟩ := s
  simp only [places, List.mem_append] at h
  rw [Schema.mk.sizeOf_spec]
  rcases h with ((((((((h | h) | h) | h) | h) | h) | h) | h) | h) | h
  · have := sizeOf_lt_of_mem_values h; omega
  · have := sizeOf_lt_of_mem_itemPlaces h; omega
  · have := sizeOf_lt_of_mem_toList h; omega
  · have := sizeOf_lt_of_mem_toList h; omega
  · have := sizeOf_lt_of_mem_toList h; omega
  · have := sizeOf_lt_of_mem_list h; omega
  · have := sizeOf_lt_of_mem_list h; omega
  · have := sizeOf_lt_of_mem_list h; omega
  · have := sizeOf_lt_of_mem_toList h; omega
  · have := sizeOf_lt_of_mem_values h; omega

/-! ## 2. Walks -/

section

variable {walk : List String → Schema → Walk} {path : List String} {l : List (String × Schema)}

/-- The first of the walks that exceeds its depth ends them all. -/
theorem walkAll_exceeded_eq :
    (walkAll walk path l).exceeded = l.findSome? fun e => (walk (path ++ [e.1]) e.2).exceeded := by
  induction l with
  | nil => rfl
  | cons e rest ih =>
    obtain ⟨segment, s⟩ := e
    rw [walkAll, List.findSome?_cons, ← ih]
    cases hfirst : (walk (path ++ [segment]) s).exceeded with
    | none => rfl
    | some e => exact hfirst

/-- Walks one after the other stay within their depth if each of them does. -/
theorem walkAll_exceeded_eq_none_iff :
    (walkAll walk path l).exceeded = none ↔
      ∀ e ∈ l, (walk (path ++ [e.1]) e.2).exceeded = none := by
  rw [walkAll_exceeded_eq, List.findSome?_eq_none_iff]

/-- Walks one after the other visit what the first visits, then what the second visits, and
    so on. -/
theorem walkAll_visited_eq (h : (walkAll walk path l).exceeded = none) :
    (walkAll walk path l).visited = l.flatMap fun e => (walk (path ++ [e.1]) e.2).visited := by
  induction l with
  | nil => rfl
  | cons e rest ih =>
    obtain ⟨segment, s⟩ := e
    obtain ⟨hfirst, hrest⟩ :=
      List.forall_mem_cons.mp (walkAll_exceeded_eq_none_iff.mp h)
    simp only at hfirst
    simp only [walkAll, hfirst, List.flatMap_cons, ih (walkAll_exceeded_eq_none_iff.mpr hrest)]

/-- Walks one after the other visit together what each of them visits. -/
theorem mem_walkAll_visited_iff (h : (walkAll walk path l).exceeded = none) {t : Schema} :
    t ∈ (walkAll walk path l).visited ↔
      ∃ e ∈ l, t ∈ (walk (path ++ [e.1]) e.2).visited := by
  rw [walkAll_visited_eq h, List.mem_flatMap]

end

/-- **The walk of a tree visits the schemas of the tree.** -/
theorem mem_walkTree_visited_iff {levels : Nat} {path : List String} {s t : Schema}
    (h : (walkTree levels path s).exceeded = none) :
    t ∈ (walkTree levels path s).visited ↔ Within s t := by
  induction levels generalizing path s with
  | zero => cases h
  | succ levels ih =>
    rw [walkTree] at h ⊢
    have hbelow := walkAll_exceeded_eq_none_iff.mp h
    rw [List.mem_cons, mem_walkAll_visited_iff h]
    constructor
    · rintro (rfl | ⟨⟨segment, c⟩, hc, ht⟩)
      · exact .self t
      · exact .deeper hc ((ih (hbelow _ hc)).mp ht)
    · rintro (_ | ⟨hc, ht⟩)
      · exact Or.inl rfl
      · exact Or.inr ⟨_, hc, (ih (hbelow _ hc)).mpr ht⟩

/-- A document is walked as its tree and then its definitions. -/
theorem walk_exceeded_eq {maxDepth : Nat} {s : Schema} :
    (s.walk maxDepth).exceeded = (walkTree (maxDepth + 1) [] s).exceeded.or
      (walkAll (walkTree maxDepth) [] s.definitionChildren).exceeded := by
  rw [walk]
  cases htree : (walkTree (maxDepth + 1) [] s).exceeded with
  | none => simp only [Option.none_or]
  | some path => simp only [htree, Option.some_or]

theorem walk_visited_eq {maxDepth : Nat} {s : Schema}
    (h : (walkTree (maxDepth + 1) [] s).exceeded = none) :
    (s.walk maxDepth).visited = (walkTree (maxDepth + 1) [] s).visited ++
      (walkAll (walkTree maxDepth) [] s.definitionChildren).visited := by
  rw [walk]
  simp only [h]

theorem walk_exceeded_eq_none_iff {maxDepth : Nat} {s : Schema} :
    (s.walk maxDepth).exceeded = none ↔
      (walkTree (maxDepth + 1) [] s).exceeded = none ∧
        (walkAll (walkTree maxDepth) [] s.definitionChildren).exceeded = none := by
  rw [walk_exceeded_eq, Option.or_eq_none_iff]

/-- **A walk within its depth visits exactly the schemas of the document.** -/
theorem mem_walk_visited_iff {maxDepth : Nat} {s t : Schema}
    (h : (s.walk maxDepth).exceeded = none) : t ∈ (s.walk maxDepth).visited ↔ s.Occurs t := by
  obtain ⟨htree, hdefinitions⟩ := walk_exceeded_eq_none_iff.mp h
  have heach := walkAll_exceeded_eq_none_iff.mp hdefinitions
  rw [walk_visited_eq htree, List.mem_append, mem_walkTree_visited_iff htree,
    mem_walkAll_visited_iff hdefinitions, Occurs]
  refine or_congr Iff.rfl ⟨?_, ?_⟩
  · rintro ⟨⟨segment, e⟩, he, ht⟩
    obtain ⟨name, hname⟩ := mem_childrenOfTable_iff.mp ⟨segment, he⟩
    exact ⟨name, e, hname, (mem_walkTree_visited_iff (heach _ he)).mp ht⟩
  · rintro ⟨name, e, hname, ht⟩
    obtain ⟨segment, he⟩ : ∃ segment, (segment, e) ∈ s.definitionChildren :=
      mem_childrenOfTable_iff.mpr ⟨name, hname⟩
    exact ⟨_, he, (mem_walkTree_visited_iff (heach _ he)).mpr ht⟩

/-! ## 3. References -/

theorem refs_ok_iff {maxDepth : Nat} {s : Schema} {tokens : List String} :
    s.refs maxDepth = .ok tokens ↔
      (s.walk maxDepth).exceeded = none ∧ (s.walk maxDepth).visited.filterMap ref = tokens := by
  rw [refs]
  cases hwalk : (s.walk maxDepth).exceeded with
  | none => simp
  | some path => simp

/-- The document refers to a token somewhere. -/
def RefersTo (s : Schema) (token : String) : Prop := ∃ t, s.Occurs t ∧ t.ref = some token

/-- The tree of a schema refers to a token somewhere; definitions are not entered. -/
def TreeRefersTo (s : Schema) (token : String) : Prop := ∃ t, Within s t ∧ t.ref = some token

theorem refersTo_iff {s : Schema} {token : String} :
    s.RefersTo token ↔ s.TreeRefersTo token ∨
      ∃ name e, (name, .schema e) ∈ s.definitions.entries ∧ e.TreeRefersTo token := by
  constructor
  · rintro ⟨t, ht | ⟨name, e, he, ht⟩, href⟩
    · exact Or.inl ⟨t, ht, href⟩
    · exact Or.inr ⟨name, e, he, t, ht, href⟩
  · rintro (⟨t, ht, href⟩ | ⟨name, e, he, t, ht, href⟩)
    · exact ⟨t, Or.inl ht, href⟩
    · exact ⟨t, Or.inr ⟨name, e, he, ht⟩, href⟩

/-- The references of a tree depend on its root and on what lies directly below it. -/
theorem treeRefersTo_congr {s t : Schema} (href : s.ref = t.ref) (hbelow : s.children = t.children)
    {token : String} : s.TreeRefersTo token ↔ t.TreeRefersTo token := by
  constructor
  · rintro ⟨u, _ | ⟨hc, hu⟩, hu'⟩
    · exact ⟨t, .self t, href ▸ hu'⟩
    · exact ⟨u, .deeper (hbelow ▸ hc) hu, hu'⟩
  · rintro ⟨u, _ | ⟨hc, hu⟩, hu'⟩
    · exact ⟨s, .self s, href ▸ hu'⟩
    · exact ⟨u, .deeper (hbelow ▸ hc) hu, hu'⟩

/-- The definitions of a schema do not belong to its tree. -/
theorem treeRefersTo_definitions_iff {s : Schema} {t : Definitions} {token : String} :
    TreeRefersTo { s with definitions := t } token ↔ s.TreeRefersTo token := by
  apply treeRefersTo_congr
  · rfl
  · rfl

/-- **The references found are those of the document, at whichever depth they are found.** -/
theorem mem_refs_iff {maxDepth : Nat} {s : Schema} {tokens : List String}
    (h : s.refs maxDepth = .ok tokens) {token : String} : token ∈ tokens ↔ s.RefersTo token := by
  obtain ⟨hwalk, rfl⟩ := refs_ok_iff.mp h
  simp only [List.mem_filterMap, mem_walk_visited_iff hwalk, RefersTo]

/-! ## 4. A depth that is enough -/

theorem walkTree_exceeded_of_sizeOf_lt {levels : Nat} {path : List String} {s : Schema}
    (h : sizeOf s < levels) : (walkTree levels path s).exceeded = none := by
  induction levels generalizing path s with
  | zero => omega
  | succ levels ih =>
    rw [walkTree]
    refine walkAll_exceeded_eq_none_iff.mpr fun e he => ih ?_
    have hlt := sizeOf_lt_of_mem_places (mem_places_of_mem_children he)
    omega

/-- **Every document can be walked**: there is no schema deeper in it than its size. -/
theorem exists_refs_ok (s : Schema) {maxDepth : Nat} (h : sizeOf s ≤ maxDepth) :
    ∃ tokens, s.refs maxDepth = .ok tokens := by
  refine ⟨_, refs_ok_iff.mpr ⟨walk_exceeded_eq_none_iff.mpr ⟨?_, ?_⟩, rfl⟩⟩
  · exact walkTree_exceeded_of_sizeOf_lt (by omega)
  · refine walkAll_exceeded_eq_none_iff.mpr fun ⟨segment, e⟩ he => ?_
    obtain ⟨name, hname⟩ := mem_childrenOfTable_iff.mp ⟨segment, he⟩
    have hplace : Subschema.schema e ∈ s.places :=
      List.mem_append_right _ (List.mem_map.mpr ⟨_, hname, rfl⟩)
    have hlt : sizeOf e < sizeOf s := sizeOf_lt_of_mem_places hplace
    exact walkTree_exceeded_of_sizeOf_lt (Nat.lt_of_lt_of_le hlt h)

end SchemaCatalog.Schema
