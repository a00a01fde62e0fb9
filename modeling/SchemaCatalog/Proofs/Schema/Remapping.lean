/-
  Mapping references again
  ========================
  **What a second map of the references of a document meets.**

  A map of references leaves every schema where it was.  So it goes exactly as
  deep as a walk that only reads (`mapRefs_exceeded`), and the document
  it leaves is as deep as before (`walk_mapReached_exceeded`): where one map succeeds,
  every further map succeeds.

  What a second map meets are the images under the first
  (`refersTo_mapReached_iff`), and it leaves the document alone exactly if it leaves
  every one of them alone (`mapReached_eq_self_iff`).  The two together are one map, that of
  their composition (`mapReached_mapReached`).
-/
import SchemaCatalog.Proofs.Schema.Rewriting
import SchemaCatalog.Proofs.Table

namespace SchemaCatalog.Schema

/-! ## 1. Depth -/

theorem walkAll_exceeded_map {walk walk' : List String → Schema → Walk} {g : Schema → Schema}
    (each : ∀ path s, (walk' path (g s)).exceeded = (walk path s).exceeded) (path : List String)
    (l : List (String × Schema)) :
    (walkAll walk' path (l.map fun e => (e.1, g e.2))).exceeded =
      (walkAll walk path l).exceeded := by
  rw [walkAll_exceeded_eq, walkAll_exceeded_eq, List.findSome?_map]
  exact congrArg (l.findSome? ·) (funext fun e => each _ e.2)

theorem walkTree_mapTree_exceeded (f : String → String) (levels : Nat) :
    ∀ (path : List String) (s : Schema),
      (walkTree levels path (s.mapTree f)).exceeded = (walkTree levels path s).exceeded := by
  induction levels with
  | zero => exact fun _ _ => rfl
  | succ levels ih =>
    intro path s
    rw [walkTree, walkTree, children_mapTree]
    exact walkAll_exceeded_map ih path s.children

theorem definitionChildren_mapReached (f : String → String) (s : Schema) :
    (s.mapReached f).definitionChildren =
      s.definitionChildren.map fun e => (e.1, e.2.mapTree f) := by
  rw [definitionChildren, definitions_mapReached, childrenOfTable_map]
  rfl

theorem children_mapReached (f : String → String) (s : Schema) :
    (s.mapReached f).children = s.children.map fun e => (e.1, e.2.mapTree f) :=
  children_mapTree f s

/-- **Replacing references does not change how deep a document is.** -/
theorem walk_mapReached_exceeded (f : String → String) (maxDepth : Nat) (s : Schema) :
    ((s.mapReached f).walk maxDepth).exceeded = (s.walk maxDepth).exceeded := by
  have htree : (walkTree (maxDepth + 1) [] (s.mapReached f)).exceeded =
      (walkTree (maxDepth + 1) [] s).exceeded := by
    rw [walkTree, walkTree, children_mapReached]
    exact walkAll_exceeded_map (walkTree_mapTree_exceeded f maxDepth) [] s.children
  have hdefinitions :
      (walkAll (walkTree maxDepth) [] (s.mapReached f).definitionChildren).exceeded =
        (walkAll (walkTree maxDepth) [] s.definitionChildren).exceeded := by
    rw [definitionChildren_mapReached]
    exact walkAll_exceeded_map (walkTree_mapTree_exceeded f maxDepth) [] s.definitionChildren
  rw [walk_exceeded_eq, walk_exceeded_eq, htree, hdefinitions]

/-- **The references of a document can be replaced exactly if they can be collected.** -/
theorem mapRefs_exceeded (f : String → String) (maxDepth : Nat) (s : Schema) :
    (s.mapRefs f maxDepth).exceeded = (s.walk maxDepth).exceeded := by
  rw [mapRefs_eq_alterRefs]
  exact (follows_alterRefs maxDepth () s).before_exceeded.symm

/-- **Replacing the references of a document succeeds exactly within its depth, and maps them.** -/
theorem mapRefs_ok_iff {f : String → String} {maxDepth : Nat} {s out : Schema} :
    s.mapRefs f maxDepth = ⟨out, (), none⟩ ↔
      (s.walk maxDepth).exceeded = none ∧ out = s.mapReached f := by
  have hexceeded := mapRefs_exceeded f maxDepth s
  constructor
  · intro h
    rw [h] at hexceeded
    have hvalue := mapRefs_value (congrArg Altered.exceeded h)
    rw [h] at hvalue
    exact ⟨hexceeded.symm, hvalue⟩
  · rintro ⟨hwalk, rfl⟩
    rw [hwalk] at hexceeded
    rw [← mapRefs_value hexceeded, ← hexceeded]

/-! ## 2. What is left alone -/

theorem mapSub_id : Subschema.map (id : Schema → Schema) = id := by
  funext place
  cases place <;> rfl

theorem mapItems_id : Items.map (id : Schema → Schema) = id := by
  funext items
  cases items with
  | each place => rw [Items.map, mapSub_id]; rfl
  | tuple l => rw [Items.map, mapSub_id, List.map_id]; rfl

theorem mapChildren_id (s : Schema) : s.mapChildren id = s := by
  have htable : s.properties.map id = s.properties := Table.map_eq_self fun _ _ => rfl
  simp only [mapChildren, mapSub_id, mapItems_id, htable, Option.map_id, List.map_id, id]
  cases s
  rfl

theorem mapChildren_eq_self_iff {g : Schema → Schema} {s : Schema} :
    s.mapChildren g = s ↔ ∀ e ∈ s.children, g e.2 = e.2 := by
  constructor
  · intro hsame e he
    have hchildren : (s.children.map fun e => (e.1, g e.2)) = s.children.map id := by
      rw [← children_mapChildren, hsame, List.map_id]
    exact congrArg Prod.snd (List.map_inj_left.mp hchildren e he)
  · intro hall
    calc s.mapChildren g = s.withChildren (s.children.map fun e => g e.2) :=
          (withChildren_map g s).symm
      _ = s.withChildren (s.children.map fun e => id e.2) := by rw [List.map_congr_left hall]; rfl
      _ = s := by rw [withChildren_map, mapChildren_id]

/-- A tree is not changed exactly if none of its references is. -/
theorem mapTree_eq_self_iff {f : String → String} (s : Schema) :
    s.mapTree f = s ↔ ∀ token, s.TreeRefersTo token → f token = token := by
  induction hn : sizeOf s using Nat.strongRecOn generalizing s with
  | _ n ih =>
    have hsplit : s.mapTree f = s ↔ s.ref.map f = s.ref ∧ s.mapChildren (mapTree f) = s := by
      rw [mapTree_eq]
      constructor
      · intro hsame
        have href : s.ref.map f = s.ref := congrArg ref hsame
        rw [href] at hsame
        exact ⟨href, hsame⟩
      · rintro ⟨href, hsame⟩
        rw [href]
        exact hsame
    rw [hsplit, mapChildren_eq_self_iff]
    constructor
    · rintro ⟨href, hbelow⟩ token ⟨t, _ | ⟨hc, ht⟩, htoken⟩
      · rw [htoken, Option.map_some] at href
        exact Option.some.inj href
      · have hlt := sizeOf_lt_of_mem_places (mem_places_of_mem_children hc)
        exact (ih _ (hn ▸ hlt) _ rfl).mp (hbelow _ hc) token ⟨t, ht, htoken⟩
    · intro hall
      refine ⟨?_, fun ⟨segment, c⟩ hc => ?_⟩
      · cases htoken : s.ref with
        | none => rfl
        | some token => rw [Option.map_some, hall token ⟨s, .self s, htoken⟩]
      · have hlt := sizeOf_lt_of_mem_places (mem_places_of_mem_children hc)
        refine (ih _ (hn ▸ hlt) c rfl).mpr ?_
        rintro token ⟨t, ht, htoken⟩
        exact hall token ⟨t, .deeper hc ht, htoken⟩

/-- Nothing but the definitions is mapped. -/
theorem definitions_mapDefined (g : Schema → Schema) (s : Schema) :
    { s.mapDefined g with definitions := s.definitions } = s := by
  cases s
  rfl

theorem mapDefined_eq_self_iff {g : Schema → Schema} {s : Schema} :
    s.mapDefined g = s ↔ ∀ name d, (name, .schema d) ∈ s.definitions.entries → g d = d := by
  have hsplit : s.mapDefined g = s ↔
      (s.definitions.entries.map fun e => (e.1, e.2.map g)) = s.definitions.entries.map id := by
    rw [List.map_id]
    constructor
    · intro hsame
      exact congrArg (fun t : Schema => t.definitions.entries) hsame
    · intro hsame
      rw [mapDefined, Table.map, hsame]
      cases s
      rfl
  rw [hsplit, List.map_inj_left]
  constructor
  · intro hall name d hd
    have hentry := congrArg Prod.snd (hall _ hd)
    exact Subschema.schema.inj hentry
  · rintro hall ⟨name, b | d⟩ he
    · rfl
    · show (name, Subschema.schema (g d)) = _
      rw [hall name d he]
      rfl

/-- **A document is not changed exactly if none of its references is.** -/
theorem mapReached_eq_self_iff {f : String → String} {s : Schema} :
    s.mapReached f = s ↔ ∀ token, s.RefersTo token → f token = token := by
  have hsplit : s.mapReached f = s ↔ s.mapTree f = s ∧ s.mapDefined (mapTree f) = s := by
    constructor
    · intro hsame
      have htree : s.mapTree f = s := by
        rw [← definitions_mapDefined (mapTree f) (s.mapTree f), ← mapReached, hsame,
          definitions_mapTree]
        cases s
        rfl
      rw [mapReached, htree] at hsame
      exact ⟨htree, hsame⟩
    · rintro ⟨htree, hdefined⟩
      rw [mapReached, htree, hdefined]
  rw [hsplit, mapTree_eq_self_iff, mapDefined_eq_self_iff]
  simp only [refersTo_iff, mapTree_eq_self_iff]
  constructor
  · rintro ⟨htree, hdefined⟩ token (htoken | ⟨name, d, hd, htoken⟩)
    · exact htree token htoken
    · exact hdefined name d hd token htoken
  · intro hall
    exact ⟨fun token htoken => hall token (Or.inl htoken),
      fun name d hd token htoken => hall token (Or.inr ⟨name, d, hd, htoken⟩)⟩

/-! ## 3. What is met -/

/-- **A mapped document refers to the images of what the document refers to.** -/
theorem refersTo_mapReached_iff {f : String → String} {s : Schema} {token : String} :
    (s.mapReached f).RefersTo token ↔ ∃ original, s.RefersTo original ∧ f original = token := by
  have hdefinitions : (s.mapReached f).definitions.entries =
      s.definitions.entries.map fun e => (e.1, e.2.map (mapTree f)) := by
    rw [definitions_mapReached]
    rfl
  have htree : (s.mapReached f).TreeRefersTo token ↔
      ∃ original, s.TreeRefersTo original ∧ f original = token := by
    rw [mapReached, mapDefined, treeRefersTo_definitions_iff, treeRefersTo_mapTree_iff]
  rw [refersTo_iff, htree, hdefinitions]
  constructor
  · rintro (⟨original, horiginal, rfl⟩ | ⟨name, d', hd', htoken⟩)
    · exact ⟨original, refersTo_iff.mpr (Or.inl horiginal), rfl⟩
    · obtain ⟨⟨name', b | d⟩, hd, heq⟩ := List.mem_map.mp hd'
      · cases heq
      · cases heq
        obtain ⟨original, horiginal, rfl⟩ := treeRefersTo_mapTree_iff.mp htoken
        exact ⟨original, refersTo_iff.mpr (Or.inr ⟨name', d, hd, horiginal⟩), rfl⟩
  · rintro ⟨original, horiginal, rfl⟩
    rcases refersTo_iff.mp horiginal with htoken | ⟨name, d, hd, htoken⟩
    · exact Or.inl ⟨original, htoken, rfl⟩
    · exact Or.inr ⟨name, d.mapTree f, List.mem_map.mpr ⟨(name, .schema d), hd, rfl⟩,
        treeRefersTo_mapTree_iff.mpr ⟨original, htoken, rfl⟩⟩

/-! ## 4. Two maps -/

/-- **One map of a document after another is the map of their composition.** -/
theorem mapReached_mapReached (g f : String → String) (s : Schema) :
    (s.mapReached f).mapReached g = s.mapReached (g ∘ f) := by
  have hdefinitions := map_map_definitions (mapTree_mapTree g f) s.definitions
  simp only [mapReached, mapDefined, mapTree_definitions, definitions_mapTree, hdefinitions,
    mapTree_mapTree]

end SchemaCatalog.Schema
