/-
  Addresses in a mapped document
  ==============================
  **Where a path leads once references have been replaced.**

  A map of references leaves every schema where it was, so the same paths lead
  into the document before and after it.  What is found at the end of a path
  depends on where the path enters definitions.  A path that never does stays in
  the tree of the root, and the map of the tree is met all the way down
  (`node?_mapTree`).  A path that enters the definitions of a schema in the
  tree finds there what has always been there (`node?_mapTree_of_enters`).

  Both laws hold whatever the root itself has been given as definitions, because a
  path that begins elsewhere does not see them.
-/
import SchemaCatalog.Proofs.Schema.Mapping
import SchemaCatalog.Proofs.Schema.Replacing

namespace SchemaCatalog.Schema

/-! ## 1. Paths -/

/-- The path stays in one tree: none of its steps leads to a definition. -/
def Descends (path : List Step) : Prop := ∀ step ∈ path, step.isDefinition = false

instance (path : List Step) : Decidable (Descends path) :=
  inferInstanceAs (Decidable (∀ step ∈ path, step.isDefinition = false))

theorem node?_append (before after : List Step) (s : Schema) :
    s.node? (before ++ after) = (s.node? before).bind (node? after) := by
  induction before generalizing s with
  | nil => rfl
  | cons step before ih =>
    rw [List.cons_append, node?, node?]
    cases (s.place? step).bind Subschema.schema? with
    | none => rfl
    | some t => exact ih t

/-- A step to anything but a definition does not see the definitions. -/
theorem node?_cons_definitions {step : Step} (h : step.isDefinition = false) (rest : List Step)
    (s : Schema) (t : Definitions) :
    node? (step :: rest) { s with definitions := t } = s.node? (step :: rest) := by
  cases step with
  | definition => cases h
  | property | items | item | additionalItems | contains | additionalProperties | allOf | anyOf
  | oneOf | not => rfl

/-! ## 2. Steps into a mapped schema -/

theorem place?_mapChildren (g : Schema → Schema) (s : Schema) {step : Step}
    (h : step.isDefinition = false) :
    (s.mapChildren g).place? step = (s.place? step).map (Subschema.map g) := by
  cases step with
  | property name => exact Table.get?_map _ _ _
  | items =>
    simp only [place?, mapChildren]
    rcases s.items with _ | (place | l) <;> rfl
  | item i =>
    simp only [place?, mapChildren]
    rcases s.items with _ | (place | l)
    · rfl
    · rfl
    · exact List.getElem?_map
  | allOf | anyOf | oneOf => exact List.getElem?_map
  | additionalItems | contains | additionalProperties | not => rfl
  | definition => cases h

/-- A step to a definition that has been changed along with all the others. -/
theorem node?_cons_definition_map {g : Schema → Schema} {s t : Schema}
    (h : t.definitions = s.definitions.map (Subschema.map g)) (name : String) (rest : List Step) :
    t.node? (.definition name :: rest) =
      ((s.definitions.get? name).bind Subschema.schema?).bind fun d => (g d).node? rest := by
  rw [node?, place?, h, Table.get?_map]
  rcases s.definitions.get? name with _ | (b | d) <;> rfl

variable (f : String → String)

theorem place?_mapTree (s : Schema) {step : Step} (h : step.isDefinition = false) :
    (s.mapTree f).place? step = (s.place? step).map (Subschema.map (mapTree f)) := by
  rw [mapTree_eq, place?_mapChildren _ _ h]
  cases step <;> rfl

theorem node?_cons_mapTree (s : Schema) {step : Step} (h : step.isDefinition = false)
    (rest : List Step) :
    (s.mapTree f).node? (step :: rest) =
      ((s.place? step).bind Subschema.schema?).bind fun t => (t.mapTree f).node? rest := by
  rw [node?, place?_mapTree f s h]
  rcases s.place? step with _ | (b | t) <;> rfl

/-- **Down a tree, the path leads to the mapped schema.** -/
theorem node?_mapTree {path : List Step} (h : Descends path) (s : Schema) :
    (s.mapTree f).node? path = (s.node? path).map (mapTree f) := by
  induction path generalizing s with
  | nil => rfl
  | cons step rest ih =>
    obtain ⟨hstep, hrest⟩ := List.forall_mem_cons.mp h
    rw [node?_cons_mapTree f s hstep, node?]
    cases (s.place? step).bind Subschema.schema? with
    | none => rfl
    | some t => exact ih hrest t

/-- **A path that enters definitions leads to what was there before.** -/
theorem node?_mapTree_of_enters (before : List Step) (name : String) (rest : List Step)
    (s : Schema) :
    (s.mapTree f).node? (before ++ .definition name :: rest) =
      s.node? (before ++ .definition name :: rest) := by
  have henter (step : Step) (hstep : step.isDefinition = true) (rest : List Step) (s : Schema) :
      (s.mapTree f).node? (step :: rest) = s.node? (step :: rest) := by
    cases step with
    | definition name => simp only [node?, place?, definitions_mapTree]
    | _ => cases hstep
  induction before generalizing s with
  | nil => exact henter _ rfl rest s
  | cons step before ih =>
    rw [List.cons_append]
    cases hstep : step.isDefinition with
    | true => exact henter step hstep _ s
    | false =>
      rw [node?_cons_mapTree f s hstep, node?]
      cases (s.place? step).bind Subschema.schema? with
      | none => rfl
      | some t => exact ih t

/-! ## 3. The document after one walk -/

/-- The token at the end of a path down the tree is the one that was there, replaced. -/
theorem ref_node?_mapTree {path : List Step} (h : Descends path) (s : Schema) :
    ((s.mapTree f).node? path).map ref = (s.node? path).map fun t => t.ref.map f := by
  rw [node?_mapTree f h, Option.map_map]
  congr 1
  funext t
  exact ref_mapTree f t

theorem ref_node?_definitions {path : List Step} (h : Descends path) (s : Schema)
    (t : Definitions) :
    (node? path { s.mapTree f with definitions := t }).map ref =
      (s.node? path).map fun d => d.ref.map f := by
  cases path with
  | nil => exact congrArg some (ref_mapTree f s)
  | cons step rest =>
    rw [node?_cons_definitions (h step List.mem_cons_self)]
    exact ref_node?_mapTree f h s

theorem node?_definitions_of_enters {step : Step} (hstep : step.isDefinition = false)
    (before : List Step) (name : String) (rest : List Step) (s : Schema) (t : Definitions) :
    node? (step :: before ++ .definition name :: rest) { s.mapTree f with definitions := t } =
      s.node? (step :: before ++ .definition name :: rest) := by
  rw [List.cons_append, node?_cons_definitions hstep, ← List.cons_append,
    node?_mapTree_of_enters f (step :: before)]

/-- **A walk replaces the token at the end of every path that enters definitions with its first
    step or not at all.** -/
theorem ref_node?_mapReached {path : List Step} (h : Descends path.tail) (s : Schema) :
    ((s.mapReached f).node? path).map ref = (s.node? path).map fun t => t.ref.map f := by
  have htree (hpath : Descends path) :
      ((s.mapReached f).node? path).map ref = (s.node? path).map fun t => t.ref.map f :=
    ref_node?_definitions f hpath s _
  cases path with
  | nil => exact htree h
  | cons step rest =>
    cases hstep : step.isDefinition with
    | false => exact htree (List.forall_mem_cons.mpr ⟨hstep, h⟩)
    | true =>
      cases step with
      | definition name =>
        rw [node?_cons_definition_map (definitions_mapReached f s), node?, place?]
        cases (s.definitions.get? name).bind Subschema.schema? with
        | none => rfl
        | some d => exact ref_node?_mapTree f h d
      | _ => cases hstep

/-- **A walk leaves alone what is found behind a later step into definitions.** -/
theorem node?_mapReached_of_enters (first : Step) (before : List Step) (name : String)
    (rest : List Step) (s : Schema) :
    (s.mapReached f).node? (first :: before ++ .definition name :: rest) =
      s.node? (first :: before ++ .definition name :: rest) := by
  cases hfirst : first.isDefinition with
  | false => exact node?_definitions_of_enters f hfirst before name rest s _
  | true =>
    cases first with
    | definition key =>
      rw [List.cons_append, node?_cons_definition_map (definitions_mapReached f s), node?, place?]
      cases (s.definitions.get? key).bind Subschema.schema? with
      | none => rfl
      | some d => exact node?_mapTree_of_enters f before name rest d
    | _ => cases hfirst

end SchemaCatalog.Schema
