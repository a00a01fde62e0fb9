/-
  Entities
  ========
  **A named type of a service, with its schema, a sample and its shape.**

  The schema and the sample are kept as the bytes they were given as, and
  are read when they are needed.  An entity without a schema is known by
  name only; a sample that is blank is no sample.
-/
import SchemaCatalog.Schema.Reader
import SchemaCatalog.Json.Writer
import SchemaCatalog.Shape.Basic
import SchemaCatalog.Error

namespace SchemaCatalog

structure Entity where
  name : String
  /-- The schema document, for an entity that has one. -/
  schema : Option Bytes := none
  /-- An instance of the schema, or a blank text. -/
  sample : Bytes := []
  /-- The shape that the schema must agree with. -/
  shape : Option Shape := none
deriving DecidableEq, Repr

/-- Whether a text holds nothing but spaces, tabs, line feeds, form feeds and carriage returns. -/
def Bytes.isBlank (b : Bytes) : Bool := b.all fun c => isSeparator c || c = 12

/-- Reads a schema document, blaming the entity `name` for what is wrong with it. -/
def Schema.ofBytesNamed (name : String) (bytes : Bytes) : Outcome Schema :=
  (Schema.ofBytes bytes).orInvalid name

namespace Entity

def hasSchema (e : Entity) : Bool := e.schema.isSome

def readSchema (e : Entity) : Outcome Schema :=
  match e.schema with
  | some bytes => Schema.ofBytesNamed e.name bytes
  | none => .error (.notSchemaCapable e.name)

/-- The value of the sample, or `none` if it is blank. -/
def readSample (e : Entity) : Outcome (Option Json) :=
  if e.sample.isBlank then .ok none
  else (Json.ofBytes e.sample).orJson.map some

/-- The name of the entity that stands for an empty object. -/
def nilName : String := "NilEntity"

/-- The schema of an object without members. -/
def nilSchema : OrderedJson := .obj [
  ("type", .str "object"), ("properties", .obj []), ("additionalProperties", .bool false),
  ("required", .arr [])]

/-- The entity that stands for an empty object. -/
def nil : Entity where
  name := nilName
  schema := some (Bytes.ofString nilSchema.compact)
  sample := Bytes.ofString (OrderedJson.obj []).compact
  shape := some ((Shape.record []).ofEntity nilName)

end Entity

end SchemaCatalog
