/-
  Written shapes
  ==============
  **A shape as JSON, and read from JSON.**

  The kind of a shape is written under `kind`, followed by what the kind is
  built from and by the marks that are set.  A reader first takes the three
  marks and sets the other members aside; the kind is then read from
  those, and members that it has no use for are passed over.  A kind may be
  given by its position in the list of kinds.
-/
import SchemaCatalog.Shape.Basic
import SchemaCatalog.Json.Writer
import SchemaCatalog.Json.Decode

namespace SchemaCatalog.Shape

/-! ### Writing -/

mutual

/-- The shape, with its members in the order in which they are written. -/
def ordered : Shape → OrderedJson
  | ⟨kind, optional, entity, exempt⟩ =>
    .obj <|
      orderedKind kind ++
      (if optional then [("optional", .bool true)] else []) ++
      (entity.map fun name => ("entity", OrderedJson.str name)).toList ++
      (if exempt then [("exempt", .bool true)] else [])

def orderedKind : Kind Shape → List (String × OrderedJson)
  | .record fields => [("kind", .str "object"), ("fields", .arr (orderedFields fields))]
  | .map value => [("kind", .str "map"), ("value", ordered value)]
  | .array element => [("kind", .str "array"), ("element", ordered element)]
  | .boolean => [("kind", .str "boolean")]
  | .integer => [("kind", .str "integer")]
  | .number => [("kind", .str "number")]
  | .string => [("kind", .str "string")]
  | .bytes => [("kind", .str "bytes")]
  | .timestamp => [("kind", .str "timestamp")]
  | .dynamic => [("kind", .str "opaque")]

def orderedFields : List (Field Shape) → List OrderedJson
  | [] => []
  | ⟨declaredName, wireName, type, skipWhenEmpty⟩ :: rest =>
    .obj
      ([("declared_name", .str declaredName), ("wire_name", .str wireName),
        ("type", ordered type)] ++
        (if skipWhenEmpty then [("skip_when_empty", .bool true)] else [])) ::
    orderedFields rest

end

def toJson (s : Shape) : Json := s.ordered.toJson

def text (s : Shape) : String := s.ordered.compact

/-! ### Reading -/

/-- The names of the kinds in documents, in the order of their positions. -/
def kindTags : List String :=
  ["boolean", "integer", "number", "string", "bytes", "timestamp", "object", "map", "array",
   "opaque"]

/-- The readings of one source, taken in as a whole, that a shape may call for. -/
structure Parts where
  shape : Unit → Reading Shape
  field : Unit → Reading (Field Shape)
  fields : Unit → Reading (List (Field Shape))

/-- A member of an object with its parts. -/
abbrev Member := Source × Parts

/-- Reads which kind is meant, from its name or its position. -/
def readTag (s : Source) : Reading String :=
  match s with
  | .str name =>
    if name ∈ kindTags then .ok name
    else .error (.dataError (.unknownVariant name kindTags))
  | .num (.int (.ofNat i)) =>
    match kindTags[i]? with
    | some name => .ok name
    | none =>
      .error (.dataError (.invalidValue (.num (.int i)) "variant index 0 <= i < 10"))
  | s => .error (s.mismatch "variant identifier")

/-- Reads the first member `name`, and then refuses a second one. -/
def readOnly {α : Type} (name : String) (members : List (String × Member))
    (read : Member → Reading α) : Reading α := do
  match members.filter (·.1 = name) with
  | [] => throw (.dataError (.missingField name))
  | (_, m) :: rest =>
    let v ← read m
    unless rest.isEmpty do throw (.dataError (.duplicateField name))
    return v

/-- Reads a kind from the members that are no marks. -/
def readKind (members : List (String × Member)) : Reading (Kind Shape) := do
  let tag ← readOnly "kind" members fun (s, _) => readTag s
  match tag with
  | "boolean" => return .boolean
  | "integer" => return .integer
  | "number" => return .number
  | "string" => return .string
  | "bytes" => return .bytes
  | "timestamp" => return .timestamp
  | "object" => return .record (← readOnly "fields" members fun (_, parts) => parts.fields ())
  | "map" => return .map (← readOnly "value" members fun (_, parts) => parts.shape ())
  | "array" => return .array (← readOnly "element" members fun (_, parts) => parts.shape ())
  | _ => return .dynamic

/-- The marks read so far, and the members set aside, latest first. -/
structure Draft where
  optional : Bool := false
  entity : Option String := none
  exempt : Bool := false
  others : List (String × Member) := []

/-- Reads a shape from the members of an object. -/
def ofMembers (m : Medium) (members : List (Except SyntaxError String × Member))
    (ending : Option Break) : Reading Shape := do
  let draft ← readMembers ["optional", "entity", "exempt"]
    (fun k (s, parts) (d : Draft) =>
      match k with
      | "optional" => return { d with optional := ← s.readBool }
      | "entity" => return { d with entity := ← s.readOptional Source.readString }
      | "exempt" => return { d with exempt := ← s.readBool }
      | _ => do
        m.takeIn s
        return { d with others := (k, s, parts) :: d.others })
    [] {} members
  Source.finish ending
  let kind ← readKind draft.others.reverse
  return ⟨kind, draft.optional, draft.entity, draft.exempt⟩

/-- The members of a field read so far. -/
structure FieldDraft where
  declaredName : Option String := none
  wireName : Option String := none
  type : Option Shape := none
  skipWhenEmpty : Bool := false

/-- Reads a field from the members of an object. -/
def fieldOfMembers (members : List (Except SyntaxError String × Member)) :
    Reading (Field Shape) := do
  let draft ← readMembers ["declared_name", "wire_name", "type", "skip_when_empty"]
    (fun k (s, parts) (d : FieldDraft) =>
      match k with
      | "declared_name" => return { d with declaredName := some (← s.readString) }
      | "wire_name" => return { d with wireName := some (← s.readString) }
      | "type" => return { d with type := some (← parts.shape ()) }
      | "skip_when_empty" => return { d with skipWhenEmpty := ← s.readBool }
      | _ => return d)
    [] {} members
  match draft with
  | { declaredName := none, .. } => throw (.dataError (.missingField "declared_name"))
  | { wireName := none, .. } => throw (.dataError (.missingField "wire_name"))
  | { type := none, .. } => throw (.dataError (.missingField "type"))
  | ⟨some declaredName, some wireName, some type, skipWhenEmpty⟩ =>
    return ⟨declaredName, wireName, type, skipWhenEmpty⟩

/-- Reads a field from its values in order. -/
def fieldOfElements (elements : List Member) : Reading (Field Shape) := do
  let missing (n : Nat) : ReadError := tooFew "FieldShape" n 4
  let (declared, rest) ← match elements with
    | [] => throw (missing 0)
    | (s, _) :: rest => pure (← s.readString, rest)
  let (wire, rest) ← match rest with
    | [] => throw (missing 1)
    | (s, _) :: rest => pure (← s.readString, rest)
  let (type, rest) ← match rest with
    | [] => throw (missing 2)
    | (_, parts) :: rest => pure (← parts.shape (), rest)
  let skip ← match rest with
    | [] => pure false
    | (s, _) :: _ => s.readBool
  finishPositional .buffer 4 elements.length none
  return ⟨declared, wire, type, skip⟩

mutual

def partsOf : Source → Parts
  | .obj members _ =>
    { shape := fun _ => ofMembers .buffer (partsOfMembers members) none
      field := fun _ => fieldOfMembers (partsOfMembers members)
      fields := fun _ => .error (.dataError (.invalidType .map "a sequence")) }
  | .arr elements _ =>
    { shape := fun _ => .error (.dataError (.invalidType .sequence "struct RuntimeType"))
      field := fun _ => fieldOfElements (partsOfElements elements)
      fields := fun _ => (partsOfElements elements).mapM fun (_, parts) => parts.field () }
  | s =>
    { shape := fun _ => .error (s.mismatch "struct RuntimeType")
      field := fun _ => .error (s.mismatch "struct FieldShape")
      fields := fun _ => .error (s.mismatch "a sequence") }

def partsOfMembers :
    List (Except SyntaxError String × Source) → List (Except SyntaxError String × Member)
  | [] => []
  | (k, s) :: rest => (k, s, partsOf s) :: partsOfMembers rest

def partsOfElements : List Source → List Member
  | [] => []
  | s :: rest => (s, partsOf s) :: partsOfElements rest

end

/-- Reads a shape. -/
def read (m : Medium) : Source → Reading Shape
  | .obj members ending => do ofMembers (← m.enter) (partsOfMembers members) ending
  | s => .error (s.mismatch "struct RuntimeType")

/-- Reads a shape from a value. -/
def ofJson (v : Json) : Reading Shape := readValue read v

end SchemaCatalog.Shape
