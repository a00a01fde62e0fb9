/-
  Collected definitions
  =====================
  **Definitions from many documents in one flat table.**

  Names that differ only in letter case are refused, because published
  references tell them apart and the names they come from need not.  A name
  may be defined again if the schema is the same up to its examples, which
  is decided by checksum; the copy that has examples is kept.
  The definitions inside a definition are added with it.

  An addition that fails ends there: what was added on the way to the
  conflict stays.
-/
import SchemaCatalog.Schema.Writer
import SchemaCatalog.Text.LineDiff
import SchemaCatalog.Text.Lowercase
import SchemaCatalog.Digest.Sha256
import SchemaCatalog.Error

namespace SchemaCatalog

namespace Json

/-- The digest of the compact text of a value. -/
def checksum (v : Json) : String := Sha256.digest (Bytes.ofString v.compact)

end Json

/-- The digest of a schema without its examples. -/
def Schema.checksum (s : Schema) : String := s.canonical.toJson.checksum

/-- The differences between two schemas without their examples, as marked lines. -/
def Schema.diffText (old new : Schema) : String :=
  LineDiff.diffText old.canonical.lines new.canonical.lines

namespace Collector

/-- A definition as it is kept. -/
structure Entry where
  name : String
  schema : Schema
  checksum : String
deriving DecidableEq, Repr

end Collector

/-- The definitions collected so far, by the lower-case form of their names. -/
structure Collector where
  entries : Table Collector.Entry := {}
deriving DecidableEq, Repr

namespace Collector

instance : Inhabited Collector := ⟨{}⟩

def size (c : Collector) : Nat := c.entries.size

def isEmpty (c : Collector) : Bool := c.entries.isEmpty

/-- The definition of exactly this name. -/
def get? (c : Collector) (name : String) : Option Schema :=
  match c.entries.get? (lowercase name) with
  | some e => if e.name = name then some e.schema else none
  | none => none

/-- What adding one definition, without those inside it, comes to. -/
inductive Decision where
  /-- The definition cannot be added. -/
  | refuse (e : SchemaError)
  /-- The definition is there already. -/
  | known
  /-- The definition is new, or brings examples. -/
  | store (key : String) (e : Entry)

def decide (c : Collector) (name : String) (s : Schema) : Decision :=
  if name = "" then .refuse .emptyDefinitionName
  else
    let entry : Entry := ⟨name, s, s.checksum⟩
    match c.entries.get? (lowercase name) with
    | none => .store (lowercase name) entry
    | some old =>
      if old.name ≠ name then .refuse (.caseCollision old.name name)
      else if old.checksum ≠ entry.checksum then
        .refuse (.conflictingDefinition name (Schema.diffText old.schema s))
      else if old.schema.hasExamples ∨ ¬ s.hasExamples then .known
      else .store (lowercase name) entry

mutual

/-- Adds a definition and those inside it.  The collector after a failure holds what was
    added before it. -/
def add (c : Collector) (name : String) : Schema → Collector × Outcome Unit
  | s@{ definitions := ⟨definitions⟩, .. } =>
    match c.decide name s with
    | .refuse e => (c, .error e)
    | .known => (c, .ok ())
    | .store key entry => addEntries ⟨c.entries.insert key entry⟩ definitions

/-- Adds the schemas of a table of definitions. -/
def addEntries (c : Collector) : List (String × Subschema Schema) → Collector × Outcome Unit
  | [] => (c, .ok ())
  | (_, .flag _) :: rest => addEntries c rest
  | (name, .schema s) :: rest =>
    match add c name s with
    | (c, .ok ()) => addEntries c rest
    | (c, .error e) => (c, .error e)

end

/-- The collected definitions by name; with `strip` without the definitions inside them. -/
def finalize (strip : Bool) (c : Collector) : Table Schema :=
  Table.ofList <| c.entries.values.map fun e =>
    (e.name, if strip then { e.schema with definitions := {} } else e.schema)

end Collector

/-- The definitions as the schemas of a components document. -/
def componentsJson (t : Table Schema) : Json :=
  .ofMembers [("components", .ofMembers [("schemas", .obj (t.map Schema.toJson))])]

end SchemaCatalog
