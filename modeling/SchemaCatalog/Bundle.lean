/-
  Bundles
  =======
  **Entities as they are stored in files.**

  A bundle file is a JSON document with a list of entities, each with a
  name and, where it has them, a schema, a sample and a shape.  A record may
  also be given as an array of its fields in order, and `null` counts as
  absence.

  As an entity of a registry, a stored entity has its schema and its sample
  as compact texts, and its shape is marked as the shape of that entity.
-/
import SchemaCatalog.Registry
import SchemaCatalog.Shape.Format

namespace SchemaCatalog

/-- An entity of a bundle file. -/
structure StoredEntity where
  name : String
  schema : Option Json := none
  sample : Option Json := none
  shape : Option Shape := none
deriving DecidableEq, Repr

namespace StoredEntity

/-! ### Reading -/

/-- The members read so far. -/
structure Draft where
  name : Option String := none
  schema : Option Json := none
  sample : Option Json := none
  shape : Option Shape := none

def readSchema (m : Medium) (s : Source) : Reading (Option Json) :=
  s.readOptional (Source.readJson m)

def readShape (m : Medium) (s : Source) : Reading (Option Shape) :=
  s.readOptional (Shape.read m)

def ofMembers (m : Medium) (members : List (Except SyntaxError String × Source))
    (ending : Option Break) : Reading StoredEntity := do
  let draft ← readMembers ["name", "schema", "example", "shape"]
    (fun k s (d : Draft) =>
      match k with
      | "name" => return { d with name := some (← s.readString) }
      | "schema" => return { d with schema := ← readSchema m s }
      | "example" => return { d with sample := ← readSchema m s }
      | "shape" => return { d with shape := ← readShape m s }
      | _ => do
        m.skip s
        return d)
    [] {} members
  Source.finish ending
  return ⟨← require "name" draft.name, draft.schema, draft.sample, draft.shape⟩

def ofElements (m : Medium) (p : Positional) : Reading StoredEntity := do
  let (name, p) ← p.next Source.readString fun n => .error (tooFew "BundleEntity" n 4)
  let (schema, p) ← p.next (readSchema m) fun _ => .ok none
  let (sample, p) ← p.next (readSchema m) fun _ => .ok none
  let (shape, _) ← p.next (readShape m) fun _ => .ok none
  return ⟨name, schema, sample, shape⟩

def read : Medium → Source → Reading StoredEntity :=
  readRecord "BundleEntity" 4 ofMembers ofElements

/-! ### Writing -/

def ordered (e : StoredEntity) : OrderedJson :=
  .obj <|
    [("name", .str e.name)] ++
    (e.schema.map fun v => ("schema", v.ordered)).toList ++
    (e.sample.map fun v => ("example", v.ordered)).toList ++
    (e.shape.map fun s => ("shape", s.ordered)).toList

/-! ### Use -/

/-- The entity of a registry. -/
def toEntity (e : StoredEntity) : Entity where
  name := e.name
  schema := e.schema.map fun v => Bytes.ofString v.compact
  sample := (e.sample.map fun v => Bytes.ofString v.compact).getD []
  shape := e.shape.map fun s => s.ofEntity e.name

end StoredEntity

/-- The contents of one or more bundle files. -/
structure Bundle where
  entities : List StoredEntity := []
deriving DecidableEq, Repr

namespace Bundle

def readEntities (m : Medium) (s : Source) : Reading (List StoredEntity) :=
  s.readList m StoredEntity.read

def ofMembers (m : Medium) (members : List (Except SyntaxError String × Source))
    (ending : Option Break) : Reading Bundle := do
  let entities ← readMembers ["entities"]
    (fun k s (l : List StoredEntity) =>
      match k with
      | "entities" => readEntities m s
      | _ => do
        m.skip s
        return l)
    [] [] members
  Source.finish ending
  return ⟨entities⟩

def ofElements (m : Medium) (p : Positional) : Reading Bundle := do
  let (entities, _) ← p.next (readEntities m) fun _ => .ok []
  return ⟨entities⟩

def read : Medium → Source → Reading Bundle := readRecord "EntityBundle" 1 ofMembers ofElements

/-- Reads a bundle file. -/
def ofBytes (bytes : Bytes) : Outcome Bundle := (readText read bytes).orJson

def ordered (b : Bundle) : OrderedJson :=
  .obj [("entities", .arr (b.entities.map StoredEntity.ordered))]

def text (b : Bundle) : String := b.ordered.compact

/-- The registry of a bundle; of two entities with one name the later one counts. -/
def toRegistry (b : Bundle) : Registry := Registry.ofEntities (b.entities.map StoredEntity.toEntity)

end Bundle

end SchemaCatalog
