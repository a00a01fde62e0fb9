/-
  Merging
  =======
  **Several object schemas as one, and several examples as one.**

  A merged schema has the properties and the required names of all its
  inputs.  What becomes of a property that two inputs declare is the
  choice of a `MergeStrategy`.
-/
import SchemaCatalog.Schema.Basic
import SchemaCatalog.Error

namespace SchemaCatalog

/-- What to do with a property that an earlier input declares already. -/
inductive MergeStrategy where
  | overwriteDuplicates
  | errorOnDuplicates
  | keepExisting
deriving DecidableEq, Repr, Inhabited

namespace MergeStrategy

def all : List MergeStrategy := [overwriteDuplicates, errorOnDuplicates, keepExisting]

def name : MergeStrategy → String
  | overwriteDuplicates => "overwrite_duplicates"
  | errorOnDuplicates => "error_on_duplicates"
  | keepExisting => "keep_existing"

/-- The strategy of a name. -/
def ofName? (name : String) : Option MergeStrategy := all.find? fun m => m.name = name

/-- Reads a strategy by its name. -/
def read (_ : Medium) (s : Source) : Reading MergeStrategy := do
  return (ofName? (← s.readChoice (all.map name))).getD default

def ofJson (v : Json) : Reading MergeStrategy := readValue read v

/-- Adds one property to those declared so far. -/
def addProperty (m : MergeStrategy) (declared : Definitions) (name : String)
    (p : Subschema Schema) : Outcome Definitions :=
  if declared.contains name then
    match m with
    | overwriteDuplicates => .ok (declared.insert name p)
    | errorOnDuplicates => .error (.duplicateProperty name)
    | keepExisting => .ok declared
  else .ok (declared.insert name p)

/-- Adds the properties of a schema to those declared so far. -/
def addProperties (m : MergeStrategy) (declared : Definitions) (s : Schema) :
    Outcome Definitions :=
  s.properties.entries.foldlM (fun declared (name, p) => m.addProperty declared name p) declared

end MergeStrategy

/-- The properties and required names of all schemas in one; no schemas make the empty one. -/
def mergeSchemas (m : MergeStrategy) (schemas : List Schema) : Outcome Schema :=
  if schemas.isEmpty then .ok {}
  else do
    let properties ← schemas.foldlM m.addProperties {}
    return {
      type := some (.single "object")
      properties
      required := sortedNames (schemas.flatMap Schema.required) }

/-- Adds the members of examples to `acc`; `i` is the position of the first. -/
def mergeExamplesFrom (acc : Table Json) (i : Nat) : List Json → Outcome (Table Json)
  | [] => .ok acc
  | .obj members :: rest =>
    mergeExamplesFrom (members.entries.foldl (fun t e => t.insert e.1 e.2) acc) (i + 1) rest
  | _ :: _ => .error (.invalidSchema ("example " ++ Nat.repr i) "expected a JSON object")

/-- The members of all examples in one object, the later ones counting. -/
def mergeExamples (examples : List Json) : Outcome Json :=
  (mergeExamplesFrom {} 0 examples).map .obj

end SchemaCatalog
