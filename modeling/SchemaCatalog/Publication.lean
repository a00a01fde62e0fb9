/-
  Publication
  ===========
  **Schemas as they are given to others.**

  A published schema carries the sample of its entity as its example, and
  its references stand under the prefix of the published document.  The
  definitions inside a definition have references of their own, which no
  walk from the root enters; `retargetNested` retargets each definition as a
  root, down to the last level.

  `Registry.components` collects the published schemas of many entities,
  and every definition inside them, in one table.
-/
import SchemaCatalog.Resolve
import SchemaCatalog.Collector

namespace SchemaCatalog

structure PublishOptions where
  definitionsPrefix : String := SchemaCatalog.definitionsPrefix
  outputPrefix : String := componentsPrefix
  maxDepth : Nat := defaultMaxDepth
  /-- Removes the definitions inside collected schemas, which are collected themselves. -/
  stripNested : Bool := true
deriving DecidableEq, Repr

namespace Schema

mutual

/-- How deep definitions lie inside definitions. -/
def definitionDepth : Schema → Nat
  | { definitions := ⟨definitions⟩, .. } => definitionDepthOf definitions

def definitionDepthOf : List (String × Subschema Schema) → Nat
  | [] => 0
  | (_, .flag _) :: rest => definitionDepthOf rest
  | (_, .schema s) :: rest => max (definitionDepth s + 1) (definitionDepthOf rest)

end

/-- Retargets the references that one walk reaches. -/
def retargetReached (o : PublishOptions) (s : Schema) : Outcome Schema :=
  let a := s.retargetRefs o.definitionsPrefix o.outputPrefix o.maxDepth
  match a.exceeded with
  | some path => .error (depthError o.maxDepth path)
  | none => .ok a.value

/-- Applies `f` to the schemas among definitions. -/
def mapDefinitions (f : Schema → Outcome Schema) :
    List (String × Subschema Schema) → Outcome (List (String × Subschema Schema))
  | [] => .ok []
  | (name, .flag b) :: rest => do return (name, .flag b) :: (← mapDefinitions f rest)
  | (name, .schema s) :: rest => do
    let s ← f s
    return (name, .schema s) :: (← mapDefinitions f rest)

/-- Retargets the references of a schema, and then those of its definitions as of schemas on
    their own, `levels` levels deep. -/
def retargetLevels (o : PublishOptions) : Nat → Schema → Outcome Schema
  | 0, s => s.retargetReached o
  | levels + 1, s => do
    let s ← s.retargetReached o
    let definitions ← mapDefinitions (retargetLevels o levels) s.definitions.entries
    return { s with definitions := ⟨definitions⟩ }

/-- Retargets the references of a schema and of all definitions inside it. -/
def retargetNested (o : PublishOptions) (s : Schema) : Outcome Schema :=
  s.retargetLevels o s.definitionDepth

end Schema

/-- The schema of an entity with the sample as its example, in published form. -/
def Entity.publish (o : PublishOptions) (e : Entity) : Outcome Schema := do
  let s ← e.readSchema
  let sample ← e.readSample
  let s := match sample with
    | some v => { s with examples := [v] }
    | none => s
  s.retargetNested o

namespace Registry

/-- The entities of these names, or all. -/
def select (r : Registry) : Option (List String) → Outcome (List Entity)
  | none => .ok r.values
  | some names => names.mapM fun name =>
    match r.get? name with
    | some e => .ok e
    | none => .error (.unresolvedReference name)

/-- Adds the published schemas of entities to those collected; an entity without a schema
    has none, and the one for the empty object is not published. -/
def collectPublished (o : PublishOptions) (c : Collector) : List Entity → Outcome Collector
  | [] => .ok c
  | e :: rest =>
    if e.name = Entity.nilName ∨ ¬ e.hasSchema then collectPublished o c rest
    else do
      let s ← e.publish o
      match c.add e.name s with
      | (c, .ok ()) => collectPublished o c rest
      | (_, .error e) => .error e

/-- The published schemas of the entities of these names, or of all, in one table. -/
def components (o : PublishOptions) (r : Registry) (names : Option (List String)) :
    Outcome (Table Schema) := do
  let c ← collectPublished o {} (← r.select names)
  return c.finalize o.stripNested

end Registry

end SchemaCatalog
