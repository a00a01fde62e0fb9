/-
  Validation of samples
  =====================
  **Whether a body is an instance of a schema.**

  A blank body is refused before anything else.  Then the schema must be a
  schema document: its addresses must be URLs, the schema of schemas must
  accept it, and it must be without faults.  Then the body must be a JSON
  text, and then everything wrong with it is reported, sorted by message
  and place.
-/
import SchemaCatalog.Validation.Evaluation
import SchemaCatalog.Resolve

namespace SchemaCatalog

namespace FieldError

/-- Whether an error is listed before another: by message, then by place. -/
def precedes (a b : FieldError) : Bool :=
  a.message < b.message || (a.message == b.message && a.field ≤ b.field)

end FieldError

/-- The document of a schema, or why it is none. -/
def readSchemaDocument (schema : Json) : Except String SchemaDocument := do
  let document ← (SchemaDocument.ofJson schema).mapError UrlError.message
  match { root := Json.metaSchema : SchemaDocument }.failures schema with
  | e :: _ => throw e.message
  | [] => pure ()
  match document.fault? with
  | some e => throw e.message
  | none => return document

/-- Checks a body against a schema; `name` is whose schema it is. -/
def validateBody (name : String) (schema : Json) (body : Bytes) : Outcome Unit := do
  if body.isBlank then throw (.exampleInvalid name [⟨"", "body is empty"⟩])
  let document ← (readSchemaDocument schema).mapError (.invalidSchema name)
  let v ← (Json.ofBytes body).orJson
  match document.failures v with
  | [] => return ()
  | errors => throw (.exampleInvalid name (errors.mergeSort FieldError.precedes))

/-- Checks the sample of an entity against its schema with all references resolved. -/
def Entity.validateSample (o : ResolverOptions) (r : Registry) (e : Entity) : Outcome Unit := do
  let s ← (← e.readSchema).dereferenceTransitive r o
  validateBody e.name s.toJson e.sample

end SchemaCatalog
