/-
  Reading schemas
  ===============
  **A schema document from JSON.**

  The members of the document are read in their order.  A keyword with a
  field of its own may occur once, and its value must have the form that
  the field takes; any other keyword is kept, the last of a name counting.
  Options read `null` as absence; tables and lists do not.

  A subschema is taken in as a whole and then read as a flag or as a
  schema.  What is wrong inside is not told apart: the value then is no
  subschema.  So a problem in the data inside a subschema is reported at
  the outermost one, while a problem in the syntax surfaces as it is.

  What a keyword makes of its value is said once, in `setKeyword`, in
  terms of the `Parts` of the value: its members read as keywords, its
  members read as a table, its elements read as subschemas.  The
  recursion over the source only supplies them.
-/
import SchemaCatalog.Schema.Basic
import SchemaCatalog.Json.Decode

namespace SchemaCatalog

def TypeNames.read (m : Medium) (s : Source) : Reading TypeNames := do
  m.takeIn s
  match s with
  | .str name => return .single name
  | s =>
    match s.readList .buffer fun _ => Source.readString with
    | .ok names => return .union names
    | .error _ => throw (.dataError (.noVariant "TypeDecl"))

namespace Schema

/-- The keywords with a field of their own. -/
def keywords : List String :=
  ["$ref", "type", "properties", "items", "additionalItems", "contains", "additionalProperties",
   "allOf", "anyOf", "oneOf", "not", "definitions", "required", "examples"]

/-- The readings of what a container holds. -/
structure Parts where
  /-- The members as the keywords of a schema that has been taken in. -/
  schema : Unit → Reading Schema := fun _ => .ok {}
  /-- The members as a table of subschemas. -/
  table : Medium → Reading Definitions := fun _ => .ok {}
  /-- The elements as subschemas. -/
  list : Medium → Reading (List (Subschema Schema)) := fun _ => .ok []

section

variable (m : Medium) (s : Source) (parts : Parts)

def readSub : Reading (Subschema Schema) := do
  m.takeIn s
  match s with
  | .bool b => return .flag b
  | .obj .. =>
    match parts.schema () with
    | .ok s => return .schema s
    | .error _ => throw (.dataError (.noVariant "SchemaOrBool"))
  | _ => throw (.dataError (.noVariant "SchemaOrBool"))

def readItems : Reading (Items Schema) := do
  m.takeIn s
  let items? : Reading (Items Schema) := match s with
    | .bool b => return .each (.flag b)
    | .arr .. => do return .tuple (← parts.list .buffer)
    | .obj .. => do return .each (.schema (← parts.schema ()))
    | _ => throw (s.mismatch "items")
  match items? with
  | .ok items => return items
  | .error _ => throw (.dataError (.noVariant "Items"))

def readTable : Reading Definitions :=
  match s with
  | .obj _ ending => do
    let t ← parts.table (← m.enter)
    Source.finish ending
    return t
  | s => .error (s.mismatch "a map")

def readAlternatives : Reading (List (Subschema Schema)) :=
  match s with
  | .arr _ ending => do
    let l ← parts.list (← m.enter)
    Source.finish ending
    return l
  | s => .error (s.mismatch "a sequence")

/-- Puts the value of one keyword into `acc`. -/
def setKeyword (keyword : String) (acc : Schema) : Reading Schema :=
  let option := s.readOptional fun s => readSub m s parts
  match keyword with
  | "$ref" => do return { acc with ref := ← s.readOptional Source.readString }
  | "type" => do return { acc with type := ← s.readOptional (TypeNames.read m) }
  | "properties" => do return { acc with properties := ← readTable m s parts }
  | "items" => do return { acc with items := ← s.readOptional fun s => readItems m s parts }
  | "additionalItems" => do return { acc with additionalItems := ← option }
  | "contains" => do return { acc with contains := ← option }
  | "additionalProperties" => do return { acc with additionalProperties := ← option }
  | "allOf" => do return { acc with allOf := ← readAlternatives m s parts }
  | "anyOf" => do return { acc with anyOf := ← readAlternatives m s parts }
  | "oneOf" => do return { acc with oneOf := ← readAlternatives m s parts }
  | "not" => do return { acc with not := ← option }
  | "definitions" => do return { acc with definitions := ← readTable m s parts }
  | "required" => do return { acc with required := ← s.readList m fun _ => Source.readString }
  | "examples" => do return { acc with examples := ← s.readList m Source.readJson }
  | _ => do return { acc with extra := acc.extra.insert keyword (← s.readJson m) }

end

/-- Reads the members of a document, each with its parts. -/
def readKeywords (m : Medium) (members : List (Except SyntaxError String × Source × Parts)) :
    Reading Schema :=
  readMembers keywords (fun k (s, parts) acc => setKeyword m s parts k acc) [] {} members

/-- Reads the members of a table, each with its parts; the last of a name counts. -/
def readEntries (m : Medium) (members : List (Except SyntaxError String × Source × Parts)) :
    Reading Definitions :=
  readMembers [] (fun k (s, parts) acc => return acc.insert k (← readSub m s parts)) [] {} members

mutual

def partsOf : Source → Parts
  | .obj members _ =>
    { schema := fun _ => readKeywords .buffer (partsOfMembers members)
      table := fun m => readEntries m (partsOfMembers members) }
  | .arr elements _ =>
    { list := fun m => (partsOfElements elements).mapM fun (s, parts) => readSub m s parts }
  | .null | .bool _ | .num _ | .str _ | .flawed _ | .broken _ => {}

/-- The members, each with its parts. -/
def partsOfMembers : List (Except SyntaxError String × Source) →
    List (Except SyntaxError String × Source × Parts)
  | [] => []
  | (k, s) :: rest => (k, s, partsOf s) :: partsOfMembers rest

/-- The elements, each with its parts. -/
def partsOfElements : List Source → List (Source × Parts)
  | [] => []
  | s :: rest => (s, partsOf s) :: partsOfElements rest

end

/-- Reads a document. -/
def read (m : Medium) : Source → Reading Schema
  | .obj members ending => do
    let s ← readKeywords (← m.enter) (partsOfMembers members)
    Source.finish ending
    return s
  | s => .error (s.mismatch "struct SchemaNode")

/-- Reads a document from its text. -/
def ofBytes (bytes : Bytes) : Reading Schema := readText read bytes

/-- Reads a document from a value. -/
def ofJson (v : Json) : Reading Schema := readValue read v

end Schema

end SchemaCatalog
