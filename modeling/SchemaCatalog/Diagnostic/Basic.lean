/-
  Diagnostics
  ===========
  **What a check of a registry reports, problem by problem.**

  Every diagnostic has a code, and the code decides how severe it is: a
  missing shape is a warning, a cycle of references is only worth knowing,
  and everything else is an error.
-/
import SchemaCatalog.ReferenceGraph
import SchemaCatalog.Text.Whitespace

namespace SchemaCatalog

inductive Severity where
  | info
  | warning
  | error
deriving DecidableEq, Repr

inductive DiagnosticCode where
  /- resolution -/
  | unresolvedReference
  | notSchemaCapable
  | invalidReference
  | referenceCycle
  /- consistency of a schema and a shape -/
  | typeMismatch
  | notNullable
  | missingProperty
  | additionalProperty
  | objectStrictness
  | indefiniteSchema
  | typeDeclaration
  | emptyWireName
  | missingShape
  | depthLimit
  /- collection of definitions -/
  | conflictingDefinition
  | nameCollision
  /- documents -/
  | invalidExample
  | invalidSchema
  | other
deriving DecidableEq, Repr

namespace DiagnosticCode

def all : List DiagnosticCode :=
  [unresolvedReference, notSchemaCapable, invalidReference, referenceCycle, typeMismatch,
   notNullable, missingProperty, additionalProperty, objectStrictness, indefiniteSchema,
   typeDeclaration, emptyWireName, missingShape, depthLimit, conflictingDefinition, nameCollision,
   invalidExample, invalidSchema, other]

/-- The name of a code in documents. -/
def name : DiagnosticCode → String
  | unresolvedReference => "UnresolvedReference"
  | notSchemaCapable => "NotSchemaCapable"
  | invalidReference => "InvalidReference"
  | referenceCycle => "ReferenceCycle"
  | typeMismatch => "TypeMismatch"
  | notNullable => "NotNullable"
  | missingProperty => "MissingProperty"
  | additionalProperty => "AdditionalProperty"
  | objectStrictness => "ObjectStrictness"
  | indefiniteSchema => "IndefiniteSchema"
  | typeDeclaration => "TypeDeclaration"
  | emptyWireName => "EmptyWireName"
  | missingShape => "MissingShape"
  | depthLimit => "DepthLimit"
  | conflictingDefinition => "ConflictingDefinition"
  | nameCollision => "NameCollision"
  | invalidExample => "InvalidExample"
  | invalidSchema => "InvalidSchema"
  | other => "Other"

/-- The short form of a code in lists. -/
def short : DiagnosticCode → String
  | unresolvedReference => "E001"
  | notSchemaCapable => "E002"
  | invalidReference => "E003"
  | referenceCycle => "I001"
  | typeMismatch => "E004"
  | notNullable => "E005"
  | missingProperty => "E006"
  | additionalProperty => "E007"
  | objectStrictness => "E008"
  | indefiniteSchema => "E009"
  | typeDeclaration => "E010"
  | emptyWireName => "E011"
  | missingShape => "W001"
  | depthLimit => "E012"
  | conflictingDefinition => "E013"
  | nameCollision => "E014"
  | invalidExample => "E015"
  | invalidSchema => "E016"
  | other => "E099"

def severity : DiagnosticCode → Severity
  | referenceCycle => .info
  | missingShape => .warning
  | _ => .error

end DiagnosticCode

/-- The code under which an error is reported. -/
def SchemaError.code : SchemaError → DiagnosticCode
  | unresolvedReference .. => .unresolvedReference
  | notSchemaCapable .. => .notSchemaCapable
  | invalidReference .. => .invalidReference
  | unsupportedTypeUnion .. | missingType .. | unknownType .. => .typeDeclaration
  | notNullable .. => .notNullable
  | typeMismatch .. => .typeMismatch
  | missingProperty .. => .missingProperty
  | additionalProperty .. => .additionalProperty
  | strictMap .. | openStruct .. => .objectStrictness
  | missingSchema .. => .indefiniteSchema
  | emptyWireName .. => .emptyWireName
  | missingShape .. => .missingShape
  | depthLimit .. => .depthLimit
  | conflictingDefinition .. => .conflictingDefinition
  | caseCollision .. | emptyDefinitionName => .nameCollision
  | exampleInvalid .. => .invalidExample
  | invalidSchema .. | json .. => .invalidSchema
  | duplicateProperty .. | config .. | io .. => .other

/-- One reported problem. -/
structure Diagnostic where
  /-- The entity that was checked. -/
  entity : String
  code : DiagnosticCode
  /-- The position inside the entity, if it is known. -/
  breadcrumb : Option String := none
  message : String
  /-- What else helps: differences, suggestions. -/
  context : List String := []
deriving DecidableEq, Repr

namespace Diagnostic

def severity (d : Diagnostic) : Severity := d.code.severity

def isError (d : Diagnostic) : Bool := d.severity = .error

def isWarning (d : Diagnostic) : Bool := d.severity = .warning

def withContext (d : Diagnostic) (text : String) : Diagnostic :=
  { d with context := d.context ++ [text] }

/-- The report of an error met while an entity was checked. -/
def ofError (entity : String) (e : SchemaError) : Diagnostic where
  entity
  code := e.code
  breadcrumb := e.breadcrumb?
  message := e.message
  context := match e with
    | .conflictingDefinition _ diff => [Text.trimEnd diff]
    | .exampleInvalid _ errors => errors.map FieldError.text
    | _ => []

/-- The report of a group of entities that refer to each other. -/
def ofCycle (members : List String) : Diagnostic where
  entity := members.headD "?"
  code := .referenceCycle
  message := "Reference cycle through " ++ Nat.repr members.length ++ " entities"
  context := ["Members: " ++ " -> ".intercalate members]

/-- Adds suggestions, if there are any. -/
def suggesting (d : Diagnostic) (names : List String) : Diagnostic :=
  if names.isEmpty then d else d.withContext ("Did you mean: " ++ ", ".intercalate names)

/-- The report of a reference that leads nowhere. -/
def ofDangling (r : DanglingReference) (suggestions : List String) : Diagnostic :=
  let d : Diagnostic := {
    entity := r.source
    code := .unresolvedReference
    message := "$ref target '" ++ r.target ++ "' is not a registered entity" }
  d.suggesting suggestions

end Diagnostic

/-- The problems reported so far, in order. -/
abbrev Diagnostics := List Diagnostic

namespace Diagnostics

def errorCount (l : Diagnostics) : Nat := l.countP Diagnostic.isError

def warningCount (l : Diagnostics) : Nat := l.countP Diagnostic.isWarning

def hasErrors (l : Diagnostics) : Bool := l.any Diagnostic.isError

end Diagnostics

end SchemaCatalog
