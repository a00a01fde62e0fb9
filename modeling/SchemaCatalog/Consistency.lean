/-
  Consistency
  ===========
  **Whether a schema and a shape describe the same values.**

  The two are descended in parallel from their roots.  A pair is a place in
  the schema, perhaps without a schema there, and a shape; `Position` says
  where it lies.  A reference is followed into the definitions of the root
  schema, and the alternatives `null` or a reference are read as that reference made
  nullable (`target`).  Then the type names must agree with the kind of the
  shape, and nullability with the marks of the shape; `dynamic` shapes
  agree with everything.  What lies below is compared by kind: the fields of a record with
  the properties, the value of a map with `additionalProperties` and every
  property, the element of an array with the items and every alternative.

  The descent recurses on the shape and stops at the first disagreement.
-/
import SchemaCatalog.Resolve

namespace SchemaCatalog

structure ConsistencyOptions where
  /-- Names that a schema may leave out because the server supplies their values. -/
  serverDefinedFields : List String := ["id"]
  /-- The prefix that every reference must carry. -/
  definitionsPrefix : String := SchemaCatalog.definitionsPrefix
  maxDepth : Nat := defaultMaxDepth
  /-- Lets a schema accept `null` where a value is always present. -/
  allowNullableRequired : Bool := false
deriving DecidableEq, Repr

namespace Consistency

/-- Where a pair lies. -/
structure Position where
  breadcrumb : String
  depth : Nat := 0
  isRoot : Bool := false
  /-- The pair belongs to a field that is left out when it is empty. -/
  skipWhenEmpty : Bool := false
deriving DecidableEq, Repr

namespace Position

def root (name : String) : Position := { breadcrumb := name, isRoot := true }

/-- A position one level further down. -/
def child (p : Position) (suffix : String) (skipWhenEmpty : Bool) : Position where
  breadcrumb := p.breadcrumb ++ suffix
  depth := p.depth + 1
  skipWhenEmpty := skipWhenEmpty

end Position

/-- What stays the same during a descent. -/
structure Context where
  root : Schema
  options : ConsistencyOptions

/-! ### What a schema says at one place -/

/-- Whether a schema is the one of the type `null` alone. -/
def isNullType (s : Schema) : Bool :=
  match s.type with
  | some (.single name) => name = "null"
  | _ => false

/-- The definition that a token names, which must be a schema. -/
def lookup (c : Context) (p : Position) (token : String) : Outcome Schema :=
  match stripPrefix? token c.options.definitionsPrefix with
  | none => .error (.invalidReference p.breadcrumb token c.options.definitionsPrefix)
  | some name =>
    match c.root.definitions.get? name with
    | some (.schema s) => .ok s
    | _ => .error (.unresolvedReference name)

/-- Reads the alternatives of a schema: a `null` among them makes it nullable, and a
    reference takes its place. -/
def targetAmong (c : Context) (p : Position) :
    Schema × Bool → List (Subschema Schema) → Outcome (Schema × Bool)
  | found, [] => .ok found
  | found, .flag _ :: rest => targetAmong c p found rest
  | (s, nullable), .schema member :: rest =>
    if isNullType member then targetAmong c p (s, true) rest
    else
      match member.ref with
      | none => targetAmong c p (s, nullable) rest
      | some token => do targetAmong c p (← lookup c p token, nullable) rest

/-- The schema that a place stands for, and whether its alternatives allow `null`. -/
def target (c : Context) (p : Position) (s : Schema) : Outcome (Schema × Bool) :=
  match s.ref with
  | some token => do return (← lookup c p token, false)
  | none => targetAmong c p (s, false) s.oneOf

/-- The one type name of a schema other than `null`, and whether `null` is allowed beside it. -/
def typeOf (p : Position) (s : Schema) : Outcome (String × Bool) :=
  match s.type with
  | none => .error (.missingType p.breadcrumb)
  | some type =>
    let names := type.toList
    let nullable := names.contains "null"
    match names.filter (· ≠ "null") with
    | [name] => .ok (name, nullable)
    | [] => if nullable then .ok ("null", false) else .error (.missingType p.breadcrumb)
    | _ => .error (.unsupportedTypeUnion p.breadcrumb names)

/-! ### Local conditions -/

/-- A shape whose values may be missing or `null`. -/
def mayBeAbsent (s : Shape) : Bool := s.optional || s.kind.isMap

/-- At the root, for entities and for fields left out when empty, nullability is free. -/
def nullabilityIsFree (p : Position) (s : Shape) : Bool :=
  p.isRoot || s.isEntity || p.skipWhenEmpty

/-- Nullability of the schema must agree with the shape. -/
def checkNullable (c : Context) (p : Position) (s : Shape) (nullable : Bool) : Outcome Unit :=
  if nullabilityIsFree p s then .ok ()
  else if mayBeAbsent s && !nullable then .error (.notNullable p.breadcrumb)
  else if nullable && !mayBeAbsent s && !s.kind.isDynamic && !c.options.allowNullableRequired then
    .error (.notNullable p.breadcrumb)
  else .ok ()

/-- The schema and type name to compare with the kind of `s`, or `none` if there is nothing
    more to compare because the shape is dynamic. -/
def compareHead (c : Context) (p : Position) (s : Shape) (schema : Option Schema) :
    Outcome (Option (Schema × String)) :=
  if c.options.maxDepth < p.depth then .error (.depthLimit p.breadcrumb c.options.maxDepth)
  else
    match schema with
    | none => if s.kind.isDynamic then .ok none else .error (.missingSchema p.breadcrumb)
    | some schema => do
      let (schema, nullableRef) ← target c p schema
      let (typeName, nullableType) ← typeOf p schema
      checkNullable c p s (nullableRef || nullableType)
      return if s.kind.isDynamic then none else some (schema, typeName)

def mismatch (p : Position) (expected : String) (kind : Kind Shape) : SchemaError :=
  .typeMismatch expected kind.name p.breadcrumb

/-- Flat kinds must be of the type named. -/
def checkFlat (p : Position) (typeName : String) (kind : Kind Shape) : Outcome Unit :=
  let require (b : Bool) : Outcome Unit :=
    if b then .ok () else .error (mismatch p typeName kind)
  match typeName with
  | "boolean" => require (kind matches .boolean)
  | "integer" => require (kind matches .integer)
  | "number" => require (kind matches .integer | .number)
  | "string" => require (kind matches .string | .bytes | .timestamp)
  | "object" => .error (mismatch p "map or struct" kind)
  | "array" => .error (mismatch p "array" kind)
  | _ => .error (.unknownType p.breadcrumb typeName)

/-- What is compared with a field before its own type: the property of its name, if that
    is a schema. -/
def checkField (c : Context) (p : Position) (schema : Schema) (declaredName wireName : String) :
    Outcome (Option Schema) :=
  if wireName = "" then .error (.emptyWireName p.breadcrumb declaredName)
  else
    let property := schema.properties.get? wireName
    if property.isNone && !c.options.serverDefinedFields.contains wireName then
      .error (.missingProperty p.breadcrumb wireName)
    else if schema.additionalPropertiesFlag = some true then .error (.openStruct p.breadcrumb)
    else .ok (property.bind Subschema.schema?)

/-- Every property must have a field. -/
def checkProperties (p : Position) (schema : Schema) (wireNames : List String) : Outcome Unit :=
  match schema.properties.keys.find? fun name => !wireNames.contains name with
  | some name => .error (.additionalProperty p.breadcrumb name)
  | none => .ok ()

/-- The pairs below a map: the places of the schema for its values. -/
def mapPlaces (p : Position) (schema : Schema) : List (Option Schema × Position) :=
  let below := p.child "[key]" false
  (match schema.additionalProperties with
    | some (.schema s) => [(some s, below)]
    | _ => []) ++
  schema.properties.entries.map fun (name, s) => (s.schema?, below.child ("." ++ name) false)

/-- The places of a list of alternatives. -/
def alternativePlaces (p : Position) (l : List (Subschema Schema)) :
    List (Option Schema × Position) :=
  l.zipIdx.map fun (s, i) => (s.schema?, p.child ("." ++ Nat.repr i) false)

/-- The pairs below an array: the places of the schema for its elements. -/
def arrayPlaces (p : Position) (schema : Schema) : List (Option Schema × Position) :=
  alternativePlaces p schema.allOf ++ alternativePlaces p schema.oneOf ++
  alternativePlaces p schema.anyOf ++
  match schema.items with
  | none => []
  | some (.each s) => [(s.schema?, p.child ".0" false)]
  | some (.tuple []) => []
  | some (.tuple (s :: _)) => [(s.schema?, p.child ".0" false)]

/-- Checks all places in order. -/
def checkPlaces (check : Option Schema → Position → Outcome Unit) :
    List (Option Schema × Position) → Outcome Unit
  | [] => .ok ()
  | (s, p) :: rest => do
    check s p
    checkPlaces check rest

/-! ### The descent -/

mutual

/-- Checks the pair of a place and a shape, and everything below. -/
def descend (c : Context) (schema : Option Schema) (p : Position) : Shape → Outcome Unit
  | ⟨kind, optional, entity, exempt⟩ =>
    if exempt then .ok ()
    else
      match compareHead c p ⟨kind, optional, entity, exempt⟩ schema with
      | .error e => .error e
      | .ok none => .ok ()
      | .ok (some (schema, typeName)) => descendKind c schema typeName p kind

/-- Compares a kind with a schema of the type named. -/
def descendKind (c : Context) (schema : Schema) (typeName : String) (p : Position) :
    Kind Shape → Outcome Unit
  | .record fields =>
    if typeName = "object" then do
      descendFields c schema p fields
      checkProperties p schema (fields.map Field.wireName)
    else checkFlat p typeName (.record fields)
  | .map value =>
    if typeName = "object" then
      if schema.additionalPropertiesFlag = some false then .error (.strictMap p.breadcrumb)
      else checkPlaces (fun s p => descend c s p value) (mapPlaces p schema)
    else checkFlat p typeName (.map value)
  | .array element =>
    if typeName = "array" then
      checkPlaces (fun s p => descend c s p element) (arrayPlaces p schema)
    else checkFlat p typeName (.array element)
  | .boolean => checkFlat p typeName .boolean
  | .integer => checkFlat p typeName .integer
  | .number => checkFlat p typeName .number
  | .string => checkFlat p typeName .string
  | .bytes => checkFlat p typeName .bytes
  | .timestamp => checkFlat p typeName .timestamp
  | .dynamic => .ok ()

/-- Checks the fields of a record against the properties of a schema. -/
def descendFields (c : Context) (schema : Schema) (p : Position) :
    List (Field Shape) → Outcome Unit
  | [] => .ok ()
  | ⟨declaredName, wireName, type, skipWhenEmpty⟩ :: rest =>
    match checkField c p schema declaredName wireName with
    | .error e => .error e
    | .ok none => descendFields c schema p rest
    | .ok (some property) =>
      match descend c (some property) (p.child ("." ++ wireName) skipWhenEmpty) type with
      | .error e => .error e
      | .ok () => descendFields c schema p rest

end

end Consistency

/-- Checks a shape against a schema whose references its definitions answer. -/
def Schema.checkShape (o : ConsistencyOptions) (s : Schema) (shape : Shape) (rootName : String) :
    Outcome Unit :=
  Consistency.descend ⟨s, o⟩ (some s) (.root rootName) shape

/-- Resolves the schema of an entity and checks it against the entity's shape. -/
def Entity.check (o : ConsistencyOptions) (entities : Registry) (e : Entity) : Outcome Unit :=
  match e.shape with
  | none => .error (.missingShape e.name)
  | some shape => do
    let s ← (← e.readSchema).dereferenceTransitive entities ⟨o.definitionsPrefix, o.maxDepth⟩
    s.checkShape o shape e.name

end SchemaCatalog
