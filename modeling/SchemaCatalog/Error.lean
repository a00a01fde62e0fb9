/-
  Errors
  ======
  **Why an operation on schemas fails, and what is said about it.**

  An error is a cause with what it concerns.  The wording of each cause
  stands in `SchemaError.message`; errors met while two trees are descended
  also carry the position, `SchemaError.breadcrumb?`.
-/
import SchemaCatalog.Json.Decode

namespace SchemaCatalog

/-- A failure of an instance against its schema: the place in the instance, as a JSON
    pointer, and what is wrong there. -/
structure FieldError where
  field : String
  message : String
deriving DecidableEq, Repr

/-- The message, after the place unless that is the whole instance. -/
def FieldError.text (e : FieldError) : String :=
  if e.field.isEmpty then e.message else e.field ++ ": " ++ e.message

inductive SchemaError where
  /- resolution -/
  | unresolvedReference (identifier : String)
  | notSchemaCapable (identifier : String)
  | invalidReference (breadcrumb reference expectedPrefix : String)
  /- type names -/
  | unsupportedTypeUnion (breadcrumb : String) (types : List String)
  | missingType (breadcrumb : String)
  | unknownType (breadcrumb typeName : String)
  /- consistency of a schema and a shape -/
  | notNullable (breadcrumb : String)
  | typeMismatch (expected got breadcrumb : String)
  | missingProperty (breadcrumb property : String)
  | additionalProperty (breadcrumb property : String)
  | strictMap (breadcrumb : String)
  | missingSchema (breadcrumb : String)
  | openStruct (breadcrumb : String)
  | emptyWireName (breadcrumb declaredName : String)
  | missingShape (name : String)
  | depthLimit (breadcrumb : String) (limit : Nat)
  /- collection of definitions -/
  | emptyDefinitionName
  | conflictingDefinition (name diff : String)
  | caseCollision (existingName newName : String)
  /- documents -/
  | invalidSchema (name reason : String)
  | exampleInvalid (name : String) (errors : List FieldError)
  | duplicateProperty (property : String)
  | config (text : String)
  | io (text : String)
  | json (e : ReadError)
deriving DecidableEq, Repr

namespace SchemaError

def message : SchemaError → String
  | unresolvedReference identifier => "Unresolved reference: entity " ++ identifier ++ " not found"
  | notSchemaCapable identifier => "Entity " ++ identifier ++ " does not provide a schema"
  | invalidReference breadcrumb reference expectedPrefix =>
    "Invalid reference " ++ reference ++ " at " ++ breadcrumb ++ ": expected prefix " ++
      expectedPrefix
  | unsupportedTypeUnion breadcrumb types =>
    "Unsupported type union at " ++ breadcrumb ++ ": " ++ Text.quoteList types ++
      " (only null plus one other type is allowed)"
  | missingType breadcrumb => "Schema at " ++ breadcrumb ++ " is missing a type"
  | unknownType breadcrumb typeName => "Unknown schema type " ++ typeName ++ " at " ++ breadcrumb
  | notNullable breadcrumb => "Nullability of " ++ breadcrumb ++ " does not match its schema"
  | typeMismatch expected got breadcrumb =>
    "Schema type mismatch at " ++ breadcrumb ++ ": expected " ++ expected ++ ", got " ++ got
  | missingProperty breadcrumb property =>
    breadcrumb ++ " has no schema property for field " ++ property
  | additionalProperty breadcrumb property =>
    breadcrumb ++ " declares property " ++ property ++ " with no matching field"
  | strictMap breadcrumb => breadcrumb ++ " is a map but its schema is a strict object"
  | missingSchema breadcrumb => breadcrumb ++ " should have a definite schema"
  | openStruct breadcrumb =>
    breadcrumb ++ " is a struct but its schema allows additional properties"
  | emptyWireName breadcrumb declaredName =>
    "Field " ++ declaredName ++ " at " ++ breadcrumb ++ " has an empty wire name"
  | missingShape name => "Entity " ++ name ++ " has no runtime shape to check"
  | depthLimit breadcrumb limit =>
    "Depth limit of " ++ Nat.repr limit ++ " exceeded at " ++ breadcrumb
  | emptyDefinitionName => "Definition name is empty"
  | conflictingDefinition name _ =>
    "Definition " ++ name ++ " already exists but with a different definition"
  | caseCollision existingName newName =>
    "Definition " ++ newName ++ " collides case-insensitively with existing definition " ++
      existingName
  | invalidSchema name reason => "Invalid schema for " ++ name ++ ": " ++ reason
  | exampleInvalid name errors =>
    "Example for " ++ name ++ " failed validation: " ++
      "; ".intercalate (errors.map FieldError.text)
  | duplicateProperty property => "Duplicate property " ++ property ++ " while merging schemas"
  | config text => "Configuration error: " ++ text
  | io text => "IO error: " ++ text
  | json e => "JSON error: " ++ e.message

/-- The position of an error that is met while trees are descended. -/
def breadcrumb? : SchemaError → Option String
  | invalidReference breadcrumb _ _ | unsupportedTypeUnion breadcrumb _ | missingType breadcrumb
  | unknownType breadcrumb _ | notNullable breadcrumb | typeMismatch _ _ breadcrumb
  | missingProperty breadcrumb _ | additionalProperty breadcrumb _ | strictMap breadcrumb
  | missingSchema breadcrumb | openStruct breadcrumb | emptyWireName breadcrumb _
  | depthLimit breadcrumb _ => some breadcrumb
  | unresolvedReference _ | notSchemaCapable _ | missingShape _ | emptyDefinitionName
  | conflictingDefinition _ _ | caseCollision _ _ | invalidSchema _ _ | exampleInvalid _ _
  | duplicateProperty _ | config _ | io _ | json _ => none

end SchemaError

/-- The result of an operation on schemas. -/
abbrev Outcome := Except SchemaError

/-- A reading whose failure is a failure of the operation. -/
def Reading.orJson {α : Type} : Reading α → Outcome α
  | .ok v => .ok v
  | .error e => .error (.json e)

/-- A reading of the schema of the entity `name`. -/
def Reading.orInvalid {α : Type} (name : String) : Reading α → Outcome α
  | .ok v => .ok v
  | .error e => .error (.invalidSchema name e.message)

end SchemaCatalog
