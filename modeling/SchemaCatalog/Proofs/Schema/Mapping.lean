/-
  Mapping references
  ==================
  **Replacing the references of a document is a map over its schemas.**

  The altering walk enumerates the schemas directly below a schema, alters
  each, and puts the results back.  What was enumerated goes back to where it
  came from (`withChildren_map`), so a walk within its depth leaves the
  document that `mapReached` describes without any walking: the tree of the
  root and the trees of its definitions with every reference replaced, and
  everything else as it was (`mapRefs_value`).

  A mapped tree refers to the images of what the tree refers to, and nothing
  else (`treeRefersTo_mapTree_iff`); one map after another is the map of their
  composition.
-/
import SchemaCatalog.Proofs.Schema.Visiting

namespace SchemaCatalog

/-! ## 1. Mapping what lies directly below a schema -/

section

variable {σ : Type}

def Subschema.map (g : σ → σ) : Subschema σ → Subschema σ
  | .flag b => .flag b
  | .schema s => .schema (g s)

def Items.map (g : σ → σ) : Items σ → Items σ
  | .each place => .each (place.map g)
  | .tuple l => .tuple (l.map (Subschema.map g))

end

namespace Schema

/-- Applies `g` to the schemas directly below a schema; its definitions are not among them. -/
def mapChildren (g : Schema → Schema) (s : Schema) : Schema :=
  { s with
    properties := s.properties.map (Subschema.map g)
    items := s.items.map (Items.map g)
    additionalItems := s.additionalItems.map (Subschema.map g)
    contains := s.contains.map (Subschema.map g)
    additionalProperties := s.additionalProperties.map (Subschema.map g)
    allOf := s.allOf.map (Subschema.map g)
    anyOf := s.anyOf.map (Subschema.map g)
    oneOf := s.oneOf.map (Subschema.map g)
    not := s.not.map (Subschema.map g) }

/-- Applies `g` to the schemas among the definitions of a schema. -/
def mapDefined (g : Schema → Schema) (s : Schema) : Schema :=
  { s with definitions := s.definitions.map (Subschema.map g) }

section

variable (g : Schema → Schema) (keyword segment : String) (rest : List Schema)

theorem map_childrenOfList (l : List (Subschema Schema)) :
    (childrenOfList keyword l).map (fun e => g e.2) =
      l.filterMap fun place => place.schema?.map g := by
  rw [childrenOfList]
  generalize 0 = n
  induction l generalizing n with
  | nil => rfl
  | cons place l ih =>
    rw [List.zipIdx_cons, List.filterMap_cons, List.filterMap_cons]
    cases place with
    | flag b => exact ih (n + 1)
    | schema s => exact congrArg (g s :: ·) (ih (n + 1))

theorem map_childrenOfTable (t : Definitions) :
    (childrenOfTable keyword t).map (fun e => g e.2) =
      t.entries.filterMap fun e => e.2.schema?.map g := by
  rw [childrenOfTable]
  induction t.entries with
  | nil => rfl
  | cons e l ih =>
    obtain ⟨name, b | s⟩ := e
    · exact ih
    · exact congrArg (g s :: ·) ih

theorem fillOption_map (place : Option (Subschema Schema)) :
    fillOption place ((childOf segment place).map (fun e => g e.2) ++ rest) =
      (place.map (Subschema.map g), rest) := by
  rcases place with _ | (b | s) <;> rfl

theorem fillList_map (l : List (Subschema Schema)) :
    fillList l ((l.filterMap fun place => place.schema?.map g) ++ rest) =
      (l.map (Subschema.map g), rest) := by
  induction l with
  | nil => rfl
  | cons place l ih =>
    cases place with
    | flag b =>
      show fillList (.flag b :: l) ((l.filterMap fun place => place.schema?.map g) ++ rest) = _
      simp only [fillList, fill, ih]
      rfl
    | schema s =>
      show fillList (.schema s :: l)
        (g s :: ((l.filterMap fun place => place.schema?.map g) ++ rest)) = _
      simp only [fillList, fill, ih]
      rfl

theorem fillEntries_map (l : List (String × Subschema Schema)) :
    fillEntries l ((l.filterMap fun e => e.2.schema?.map g) ++ rest) =
      (l.map fun e => (e.1, e.2.map g), rest) := by
  induction l with
  | nil => rfl
  | cons e l ih =>
    obtain ⟨name, b | s⟩ := e
    · show fillEntries ((name, .flag b) :: l)
        ((l.filterMap fun e => e.2.schema?.map g) ++ rest) = _
      simp only [fillEntries, fill, ih]
      rfl
    · show fillEntries ((name, .schema s) :: l)
        (g s :: ((l.filterMap fun e => e.2.schema?.map g) ++ rest)) = _
      simp only [fillEntries, fill, ih]
      rfl

theorem fillItems_map (items : Option (Items Schema)) :
    fillItems items ((childrenOfItems items).map (fun e => g e.2) ++ rest) =
      (items.map (Items.map g), rest) := by
  rcases items with _ | ((b | s) | l)
  · rfl
  · rfl
  · rfl
  · rw [childrenOfItems, map_childrenOfList, fillItems, fillList_map]
    rfl

end

/-- **What was below goes back to its place.** -/
theorem withChildren_map (g : Schema → Schema) (s : Schema) :
    s.withChildren (s.children.map fun e => g e.2) = s.mapChildren g := by
  -- every keyword takes back what it gave and leaves the rest to the next
  have hlast := fillOption_map g "not" [] s.not
  rw [List.append_nil] at hlast
  simp only [children, List.map_append, List.append_assoc, withChildren, map_childrenOfList,
    map_childrenOfTable, fillOption_map, fillItems_map, fillEntries_map, fillList_map, hlast]
  rfl

theorem withDefinitionChildren_map (g : Schema → Schema) (s : Schema) :
    s.withDefinitionChildren (s.definitionChildren.map fun e => g e.2) = s.mapDefined g := by
  have hfill := fillEntries_map g [] s.definitions.entries
  rw [List.append_nil] at hfill
  rw [withDefinitionChildren, definitionChildren, map_childrenOfTable, hfill]
  rfl

theorem map_map_definitions {g h k : Schema → Schema} (each : ∀ d, h (g d) = k d)
    (t : Definitions) :
    (t.map (Subschema.map g)).map (Subschema.map h) = t.map (Subschema.map k) := by
  rw [Table.map, Table.map, List.map_map]
  refine congrArg Table.mk (List.map_congr_left fun e _ => ?_)
  obtain ⟨name, b | d⟩ := e
  · rfl
  · exact congrArg (fun d => (name, Subschema.schema d)) (each d)

section

variable (g : Schema → Schema) (keyword segment : String)

theorem childOf_map (place : Option (Subschema Schema)) :
    childOf segment (place.map (Subschema.map g)) =
      (childOf segment place).map fun e => (e.1, g e.2) := by
  rcases place with _ | (b | s) <;> rfl

theorem childrenOfList_map (l : List (Subschema Schema)) :
    childrenOfList keyword (l.map (Subschema.map g)) =
      (childrenOfList keyword l).map fun e => (e.1, g e.2) := by
  rw [childrenOfList, childrenOfList]
  generalize 0 = n
  induction l generalizing n with
  | nil => rfl
  | cons place l ih =>
    rw [List.map_cons, List.zipIdx_cons, List.zipIdx_cons, List.filterMap_cons,
      List.filterMap_cons]
    cases place with
    | flag b => exact ih (n + 1)
    | schema s => exact congrArg ((keyword ++ "/" ++ Nat.repr n, g s) :: ·) (ih (n + 1))

theorem childrenOfTable_map (t : Definitions) :
    childrenOfTable keyword (t.map (Subschema.map g)) =
      (childrenOfTable keyword t).map fun e => (e.1, g e.2) := by
  rw [childrenOfTable, childrenOfTable, Table.map]
  induction t.entries with
  | nil => rfl
  | cons e l ih =>
    obtain ⟨name, b | s⟩ := e
    · exact ih
    · exact congrArg ((keyword ++ "/" ++ name, g s) :: ·) ih

theorem childrenOfItems_map (items : Option (Items Schema)) :
    childrenOfItems (items.map (Items.map g)) =
      (childrenOfItems items).map fun e => (e.1, g e.2) := by
  rcases items with _ | ((b | s) | l)
  · rfl
  · rfl
  · rfl
  · exact childrenOfList_map g "items" l

theorem children_mapChildren (s : Schema) :
    (s.mapChildren g).children = s.children.map fun e => (e.1, g e.2) := by
  simp only [children, mapChildren, List.map_append, childOf_map, childrenOfItems_map,
    childrenOfTable_map, childrenOfList_map]

end

/-! ## 2. Mapping a tree -/

mutual

/-- Replaces the references of the tree of a schema; its definitions stay as they are. -/
def mapTree (f : String → String) : Schema → Schema
  | ⟨r, t, ⟨p⟩, i, ai, c, ap, all, any, one, n, d, rq, ex, x⟩ =>
    ⟨r.map f, t, ⟨mapTable f p⟩, mapItems f i, mapOption f ai, mapOption f c, mapOption f ap,
      mapList f all, mapList f any, mapList f one, mapOption f n, d, rq, ex, x⟩
  termination_by structural s => s

def mapSub (f : String → String) : Subschema Schema → Subschema Schema
  | .flag b => .flag b
  | .schema s => .schema (mapTree f s)
  termination_by structural s => s

def mapOption (f : String → String) : Option (Subschema Schema) → Option (Subschema Schema)
  | none => none
  | some place => some (mapSub f place)
  termination_by structural s => s

def mapList (f : String → String) : List (Subschema Schema) → List (Subschema Schema)
  | [] => []
  | place :: l => mapSub f place :: mapList f l
  termination_by structural s => s

def mapItems (f : String → String) : Option (Items Schema) → Option (Items Schema)
  | none => none
  | some (.each place) => some (.each (mapSub f place))
  | some (.tuple l) => some (.tuple (mapList f l))
  termination_by structural s => s

def mapTable (f : String → String) :
    List (String × Subschema Schema) → List (String × Subschema Schema)
  | [] => []
  | (name, place) :: l => (name, mapSub f place) :: mapTable f l
  termination_by structural s => s

end

section

variable (f : String → String)

theorem mapSub_eq (place : Subschema Schema) : mapSub f place = place.map (mapTree f) := by
  cases place <;> rfl

theorem mapOption_eq (place : Option (Subschema Schema)) :
    mapOption f place = place.map (Subschema.map (mapTree f)) := by
  cases place with
  | none => rfl
  | some place => exact congrArg some (mapSub_eq f place)

theorem mapList_eq (l : List (Subschema Schema)) :
    mapList f l = l.map (Subschema.map (mapTree f)) := by
  induction l with
  | nil => rfl
  | cons place l ih => rw [mapList, ih, mapSub_eq, List.map_cons]

theorem mapItems_eq (items : Option (Items Schema)) :
    mapItems f items = items.map (Items.map (mapTree f)) := by
  rcases items with _ | (place | l)
  · rfl
  · rw [mapItems, mapSub_eq]
    rfl
  · rw [mapItems, mapList_eq]
    rfl

theorem mapTable_eq (l : List (String × Subschema Schema)) :
    mapTable f l = l.map fun e => (e.1, e.2.map (mapTree f)) := by
  induction l with
  | nil => rfl
  | cons e l ih => rw [mapTable, ih, mapSub_eq, List.map_cons]

/-- The map replaces the reference of a schema and goes on with what lies below it. -/
theorem mapTree_eq (s : Schema) :
    s.mapTree f = mapChildren (mapTree f) { s with ref := s.ref.map f } := by
  obtain ⟨r, t, ⟨p⟩, i, ai, c, ap, all, any, one, n, d, rq, ex, x⟩ := s
  simp only [mapTree, mapChildren, mapOption_eq, mapList_eq, mapItems_eq, mapTable_eq, Table.map]

theorem ref_mapTree (s : Schema) : (s.mapTree f).ref = s.ref.map f := by
  rw [mapTree_eq]
  rfl

theorem definitions_mapTree (s : Schema) : (s.mapTree f).definitions = s.definitions := by
  rw [mapTree_eq]
  rfl

theorem mapTree_definitions (s : Schema) (t : Definitions) :
    mapTree f { s with definitions := t } = { s.mapTree f with definitions := t } := by
  rw [mapTree_eq, mapTree_eq]
  rfl

theorem children_mapTree (s : Schema) :
    (s.mapTree f).children = s.children.map fun e => (e.1, e.2.mapTree f) := by
  rw [mapTree_eq, children_mapChildren]
  rfl

end

mutual

/-- One map after another is the map of their composition. -/
theorem mapTree_mapTree (g f : String → String) :
    ∀ s, mapTree g (mapTree f s) = mapTree (g ∘ f) s
  | ⟨r, t, ⟨p⟩, i, ai, c, ap, all, any, one, n, d, rq, ex, x⟩ => by
    simp only [mapTree, Option.map_map, mapTable_mapTable g f p, mapItems_mapItems g f i,
      mapOption_mapOption g f ai, mapOption_mapOption g f c, mapOption_mapOption g f ap,
      mapList_mapList g f all, mapList_mapList g f any, mapList_mapList g f one,
      mapOption_mapOption g f n]

theorem mapSub_mapSub (g f : String → String) :
    ∀ place, mapSub g (mapSub f place) = mapSub (g ∘ f) place
  | .flag _ => rfl
  | .schema s => congrArg Subschema.schema (mapTree_mapTree g f s)

theorem mapOption_mapOption (g f : String → String) :
    ∀ place, mapOption g (mapOption f place) = mapOption (g ∘ f) place
  | none => rfl
  | some place => congrArg some (mapSub_mapSub g f place)

theorem mapList_mapList (g f : String → String) :
    ∀ l, mapList g (mapList f l) = mapList (g ∘ f) l
  | [] => rfl
  | place :: l => by simp only [mapList, mapSub_mapSub g f place, mapList_mapList g f l]

theorem mapItems_mapItems (g f : String → String) :
    ∀ items, mapItems g (mapItems f items) = mapItems (g ∘ f) items
  | none => rfl
  | some (.each place) => by simp only [mapItems, mapSub_mapSub g f place]
  | some (.tuple l) => by simp only [mapItems, mapList_mapList g f l]

theorem mapTable_mapTable (g f : String → String) :
    ∀ l, mapTable g (mapTable f l) = mapTable (g ∘ f) l
  | [] => rfl
  | (_, place) :: l => by simp only [mapTable, mapSub_mapSub g f place, mapTable_mapTable g f l]

end

/-! ## 3. The altering walk -/

theorem alterAll_value {alter : List String → Unit → Schema → Altered Unit Schema}
    {g : Schema → Schema} (each : ∀ path s, (alter path () s).exceeded = none →
      (alter path () s).value = g s)
    {path : List String} {l : List (String × Schema)}
    (h : (alterAll alter path () l).exceeded = none) :
    (alterAll alter path () l).value = l.map fun e => g e.2 := by
  induction l with
  | nil => rfl
  | cons e rest ih =>
    obtain ⟨segment, s⟩ := e
    rw [alterAll] at h ⊢
    cases hfirst : (alter (path ++ [segment]) () s).exceeded with
    | some path' =>
      simp only [hfirst] at h
      cases h
    | none =>
      simp only [hfirst] at h ⊢
      rw [each _ _ hfirst, ih h, List.map_cons]

/-- **Within its depth, the altering walk of a tree maps the tree.** -/
theorem alterTree_value {f : String → String} {levels : Nat} (path : List String) (s : Schema)
    (h : (alterTree (fun _ s => ({ s with ref := s.ref.map f }, ())) levels path () s).exceeded =
      none) :
    (alterTree (fun _ s => ({ s with ref := s.ref.map f }, ())) levels path () s).value =
      s.mapTree f := by
  induction levels generalizing path s with
  | zero => cases h
  | succ levels ih =>
    rw [alterTree] at h ⊢
    simp only at h ⊢
    rw [alterAll_value ih h, withChildren_map, mapTree_eq]

/-- Replaces the references that a walk of the document finds. -/
def mapReached (f : String → String) (s : Schema) : Schema :=
  (s.mapTree f).mapDefined (mapTree f)

theorem definitions_mapReached (f : String → String) (s : Schema) :
    (s.mapReached f).definitions = s.definitions.map (Subschema.map (mapTree f)) := by
  rw [mapReached, mapDefined, definitions_mapTree]

/-- **Within its depth, the altering walk of a document replaces the references that a walk
    finds, and nothing else.** -/
theorem mapRefs_value {f : String → String} {maxDepth : Nat} {s : Schema}
    (h : (s.mapRefs f maxDepth).exceeded = none) :
    (s.mapRefs f maxDepth).value = s.mapReached f := by
  rw [mapRefs, alter] at h ⊢
  simp only at h ⊢
  split at h
  · next path hpath =>
    rw [hpath] at h
    cases h
  · next htree =>
    simp only
    rw [alterAll_value alterTree_value h, withDefinitionChildren_map, alterTree_value [] s htree,
      mapReached]

/-! ## 4. The references of a mapped tree -/

theorem within_mapTree {f : String → String} {s t : Schema} (h : Within s t) :
    Within (s.mapTree f) (t.mapTree f) := by
  induction h with
  | self s => exact .self _
  | @deeper s c t segment hc _ ih =>
    have hmapped : (segment, c.mapTree f) ∈ (s.mapTree f).children := by
      rw [children_mapTree]
      exact List.mem_map.mpr ⟨(segment, c), hc, rfl⟩
    exact .deeper hmapped ih

theorem exists_of_within_mapTree {f : String → String} {s t' : Schema}
    (h : Within (s.mapTree f) t') : ∃ t, Within s t ∧ t' = t.mapTree f := by
  generalize hs : s.mapTree f = s' at h
  induction h generalizing s with
  | self s' => exact ⟨s, .self s, hs.symm⟩
  | @deeper s' c' t' segment hc _ ih =>
    rw [← hs, children_mapTree] at hc
    obtain ⟨⟨segment', c⟩, hmem, heq⟩ := List.mem_map.mp hc
    cases heq
    obtain ⟨t, ht, rfl⟩ := ih rfl
    exact ⟨t, .deeper hmem ht, rfl⟩

/-- **A mapped tree refers to the images of what the tree refers to.** -/
theorem treeRefersTo_mapTree_iff {f : String → String} {s : Schema} {token : String} :
    (s.mapTree f).TreeRefersTo token ↔ ∃ original, s.TreeRefersTo original ∧ f original = token := by
  constructor
  · rintro ⟨t', ht', href⟩
    obtain ⟨t, ht, rfl⟩ := exists_of_within_mapTree ht'
    rw [ref_mapTree, Option.map_eq_some_iff] at href
    obtain ⟨original, horiginal, htoken⟩ := href
    exact ⟨original, ⟨t, ht, horiginal⟩, htoken⟩
  · rintro ⟨original, ⟨t, ht, href⟩, rfl⟩
    exact ⟨t.mapTree f, within_mapTree ht, by rw [ref_mapTree, href, Option.map_some]⟩

end Schema

end SchemaCatalog
