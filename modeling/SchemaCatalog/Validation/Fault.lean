/-
  Faults of schemas
  =================
  **Whether a JSON value can be evaluated as a schema.**

  A fault is an argument that a keyword cannot work with, or a schema inside
  that has one.  Of several faults the first in the order of keywords
  counts.  A keyword that another one stands in for, or that says nothing
  beside the others, is not looked into; neither are the keywords beside a
  reference.

  A fault has a place like an error of an instance, but it is the place in
  the schema: of the schema for most keywords, of the keyword itself for
  those that count things and for lists of names.
-/
import SchemaCatalog.Error
import SchemaCatalog.Validation.Assertion
import SchemaCatalog.Validation.Document

namespace SchemaCatalog.Json

def typeNames : List String :=
  ["array", "boolean", "integer", "null", "number", "object", "string"]

/-- A fault at a place of a schema. -/
def faultAt (place : Pointer) (message : String) : FieldError := ⟨place.text, message⟩

def notOfType (place : Pointer) (v : Json) (name : String) : FieldError :=
  faultAt place (typeMessage v name)

/-- A fault without a place. -/
def placeless (message : String) : FieldError := ⟨"", message⟩

def schemaFault : FieldError := placeless "Schema error"

/-- What is wrong with the names of types. -/
def typesFault? : List Json → Option FieldError
  | [] => none
  | str name :: rest =>
    if name ∈ typeNames then typesFault? rest
    else some <| placeless <|
      (str name).compact ++ " is not one of " ++ (ofStrings typeNames).compact
  | v :: _ => some (placeless (typeMessage v "string"))

/-- What is wrong with a list of the names of members. -/
def namesFault? (place : Pointer) (l : List Json) : Option FieldError :=
  (l.find? fun v => !v.hasType "string").map fun v => notOfType place v "string"

def countKeywords : List String :=
  ["maxItems", "maxLength", "maxProperties", "minItems", "minLength", "minProperties"]

def limitKeywords : List String :=
  ["exclusiveMaximum", "exclusiveMinimum", "maximum", "minimum", "multipleOf"]

/-- What is wrong with a count.  A count is written as a whole number. -/
def countFault? (place : Pointer) : Json → Option FieldError
  | num (.int n) =>
    if n < 0 then
      some (faultAt place ((num (.int n)).compact ++ " is less than the minimum of 0"))
    else none
  | v => some (notOfType place v "integer")

/-- What is wrong with the argument of a keyword that has no schemas in it. -/
def argumentFault? (place : Pointer) (siblings : Table Json) (keyword : String) (v : Json) :
    Option FieldError :=
  let demand (name : String) (v : Json) : Option FieldError :=
    if v.hasType name then none else some (notOfType place v name)
  if keyword ∈ countKeywords then countFault? (place ++ [keyword]) v
  else if keyword ∈ limitKeywords then demand "number" v
  else match keyword, v with
    | "type", str name | "type", arr [str name] =>
      if name ∈ typeNames then none else some schemaFault
    | "type", arr l => typesFault? l
    | "type", v => some (faultAt place (typesMessage v ["array", "string"]))
    | "enum", v => demand "array" v
    | "required", arr l => namesFault? (place ++ ["required"]) l
    | "required", v => some (notOfType (place ++ ["required"]) v "array")
    | "uniqueItems", v => demand "boolean" v
    | "pattern", str pattern =>
      if (Pattern.readPlain pattern).isSome then none
      else some (faultAt place (formatMessage v "regex"))
    | "pattern", v | "format", v => demand "string" v
    | "contentMediaType", str "application/json" =>
      (siblings.get? "contentEncoding").bind (demand "string")
    | "contentMediaType", v => demand "string" v
    | "contentEncoding", v =>
      if siblings.contains "contentMediaType" then none else demand "string" v
    | _, _ => none

/-- Whether `additionalProperties` is evaluated together with the keywords for members. -/
def coversMembers (siblings : Table Json) : Bool :=
  match siblings.get? "additionalProperties" with
  | some (bool false) | some (obj _) => true
  | _ => false

/-- What is wrong with a keyword; `inside` are the first faults of the schemas in the arguments
    of the keywords. -/
def keywordFault? (place : Pointer) (siblings : Table Json) (inside : String → Option FieldError)
    (keyword : String) (v : Json) : Option FieldError :=
  match keyword, v with
  | "properties", v | "patternProperties", v =>
    if coversMembers siblings then none
    else if v.hasType "object" then inside keyword
    else some (notOfType place v "object")
  | "additionalProperties", v =>
    let ofPatterns := match siblings.get? "patternProperties" with
      | some (obj _) => inside "patternProperties"
      | _ => none
    let ofDeclared := match siblings.get? "properties" with
      | some (obj _) => inside "properties"
      | some _ => some schemaFault
      | none => none
    match v, siblings.get? "patternProperties" with
    | bool true, _ => ofPatterns
    | _, some (obj _) | _, none => ofPatterns.or (ofDeclared.or (inside keyword))
    | _, some _ => none
  | "items", arr _ | "items", obj _ | "propertyNames", obj _ => inside keyword
  | "contains", _ | "not", _ => inside keyword
  | "additionalItems", obj _ =>
    match siblings.get? "items" with
    | some (arr _) => inside keyword
    | _ => none
  | "if", _ =>
    if siblings.contains "then" ∨ siblings.contains "else" then
      (inside "if").or ((inside "then").or (inside "else"))
    else none
  | "allOf", v | "anyOf", v | "oneOf", v =>
    if v.hasType "array" then inside keyword else some (notOfType place v "array")
  | "dependencies", v =>
    if v.hasType "object" then inside keyword else some (notOfType place v "object")
  | keyword, v => argumentFault? place siblings keyword v

/-- Where the argument of a keyword has schemas in it. -/
inductive SchemaPlaces where
  /-- It is a schema. -/
  | itself
  /-- It is a list of schemas, or a schema. -/
  | elements
  /-- It is a table of schemas. -/
  | members
  /-- It is a table of schemas under patterns. -/
  | patterns
  /-- It is a table of schemas and of lists of names. -/
  | dependencies
  | nowhere
deriving DecidableEq, Repr

def SchemaPlaces.ofKeyword (keyword : String) : SchemaPlaces :=
  match keyword with
  | "properties" => members
  | "patternProperties" => patterns
  | "dependencies" => dependencies
  | "allOf" | "anyOf" | "items" | "oneOf" => elements
  | "additionalItems" | "additionalProperties" | "contains" | "else" | "if" | "not"
  | "propertyNames" | "then" => itself
  | _ => nowhere

mutual

/-- The first fault of a schema. -/
def fault? (scope : Scope) (place : Pointer) : Json → Option FieldError
  | bool _ => none
  | obj ⟨l⟩ =>
    let siblings : Table Json := ⟨l⟩
    match (id? (obj ⟨l⟩)).elim (.ok scope) scope.enter with
    | .error e => some (placeless e.message)
    | .ok scope =>
      match siblings.get? "$ref" with
      | some (str reference) =>
        match scope.urlOf reference with
        | .ok _ => none
        | .error e => some (placeless e.message)
      | some v => some (notOfType place v "string")
      | none =>
        let inside := faultsInside scope place l
        l.findSome? fun (keyword, v) =>
          keywordFault? place siblings (fun k => (inside.lookup k).join) keyword v
  | v => some (faultAt place (typesMessage v ["boolean", "object"]))

/-- The first faults of the schemas in the arguments of keywords. -/
def faultsInside (scope : Scope) (place : Pointer) :
    List (String × Json) → List (String × Option FieldError)
  | [] => []
  | (k, v) :: rest =>
    let place' := place ++ [k]
    let found := match SchemaPlaces.ofKeyword k, v with
      | .elements, arr l => faultOfElements? scope place' 0 l
      | .itself, v | .elements, v => fault? scope place' v
      | .members, obj ⟨l⟩ => faultOfMembers? scope place' l
      | .patterns, obj ⟨l⟩ => faultOfPatterns? scope place' l
      | .dependencies, obj ⟨l⟩ => faultOfDependencies? scope place' l
      | _, _ => none
    (k, found) :: faultsInside scope place rest

/-- The first fault of schemas in a list, the first of which has the position `i`. -/
def faultOfElements? (scope : Scope) (place : Pointer) (i : Nat) : List Json → Option FieldError
  | [] => none
  | v :: rest =>
    (fault? scope (place ++ [Nat.repr i]) v).or (faultOfElements? scope place (i + 1) rest)

def faultOfMembers? (scope : Scope) (place : Pointer) :
    List (String × Json) → Option FieldError
  | [] => none
  | (k, v) :: rest => (fault? scope (place ++ [k]) v).or (faultOfMembers? scope place rest)

def faultOfPatterns? (scope : Scope) (place : Pointer) :
    List (String × Json) → Option FieldError
  | [] => none
  | (k, v) :: rest =>
    if (Pattern.read k).isNone then some (faultAt place (formatMessage v "regex"))
    else (fault? scope (place ++ [k]) v).or (faultOfPatterns? scope place rest)

def faultOfDependencies? (scope : Scope) (place : Pointer) :
    List (String × Json) → Option FieldError
  | [] => none
  | (k, v) :: rest =>
    let found := match v with
      | arr l => namesFault? place l
      | v => fault? scope (place ++ [k]) v
    found.or (faultOfDependencies? scope place rest)

end

end SchemaCatalog.Json
