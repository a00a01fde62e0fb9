/-
  Resolution
  ==========
  **Making a document self-contained: every entity it refers to becomes one
  of its definitions.**

  One pass looks up, in the order of a walk, every reference of the document
  that its definitions do not answer yet, and adds the entity's schema as a
  definition.  The definitions of an added schema, at any depth, are copied
  to the document as well, because references inside it now start from
  there; a name that is already taken is kept.

  `dereferenceTransitive` repeats the pass until it adds nothing.  Each
  earlier pass adds an entity of the registry under a name that was free,
  so `fuel`, which bounds the number of passes, is the number of names
  registered and one more.
-/
import SchemaCatalog.Schema.Walk
import SchemaCatalog.Reference
import SchemaCatalog.Registry
import SchemaCatalog.Schema.Writer

namespace SchemaCatalog

/-- How references are resolved. -/
structure ResolverOptions where
  definitionsPrefix : String := SchemaCatalog.definitionsPrefix
  maxDepth : Nat := defaultMaxDepth
deriving DecidableEq, Repr

namespace Schema

mutual

/-- Adds a schema to a table of definitions, and then the definitions inside it. -/
def hoist (table : Definitions) (name : String) : Schema → Definitions
  | s@{ definitions := ⟨definitions⟩, .. } =>
    hoistEntries (table.insert name (.schema s)) definitions

/-- Adds definitions whose names are free, and then the definitions inside them. -/
def hoistEntries (table : Definitions) : List (String × Subschema Schema) → Definitions
  | [] => table
  | (name, .flag b) :: rest => hoistEntries (table.insertIfNew name (.flag b)) rest
  | (name, .schema s) :: rest =>
    hoistEntries (if table.contains name then table else hoist table name s) rest

end

theorem hoist_eq (table : Definitions) (name : String) (s : Schema) :
    hoist table name s = hoistEntries (table.insert name (.schema s)) s.definitions.entries := by
  cases s; rfl

/-- Adds what the references in `tokens` call for to the definitions of `s`. -/
def inlineTokens (entities : Registry) (o : ResolverOptions) (s : Schema) :
    List String → Outcome Schema
  | [] => .ok s
  | token :: rest => do
    let name := entityIdentifier token o.definitionsPrefix
    if s.definitions.contains name then inlineTokens entities o s rest
    else
      match entities.get? name with
      | none => throw (.unresolvedReference name)
      | some { schema := none, .. } => throw (.notSchemaCapable name)
      | some { schema := some bytes, .. } =>
        let inlined ← Schema.ofBytesNamed name bytes
        inlineTokens entities o { s with definitions := hoist s.definitions name inlined } rest

/-- One pass: adds every entity that the document refers to. -/
def dereference (entities : Registry) (o : ResolverOptions) (s : Schema) : Outcome Schema := do
  inlineTokens entities o s (← s.refs o.maxDepth)

/-- At most `fuel` passes, until one adds nothing. -/
def dereferencePasses (entities : Registry) (o : ResolverOptions) : Nat → Schema → Outcome Schema
  | 0, s => .ok s
  | fuel + 1, s => do
    let next ← s.dereference entities o
    if next.definitions.size = s.definitions.size then return next
    else dereferencePasses entities o fuel next

/-- Adds every entity that the document refers to, itself or through others. -/
def dereferenceTransitive (entities : Registry) (o : ResolverOptions) (s : Schema) :
    Outcome Schema :=
  s.dereferencePasses entities o (entities.size + 1)

/-- The pass on documents as bytes. -/
def dereferenceBytes (entities : Registry) (o : ResolverOptions) (bytes : Bytes) :
    Outcome Bytes := do
  let s ← (Schema.ofBytes bytes).orJson
  return Bytes.ofString (← s.dereference entities o).text

/-- Carries every reference token over from one prefix to another. -/
def retargetRefs (source target : String) (maxDepth : Nat) (s : Schema) : Altered Unit Schema :=
  s.mapRefs (retargetToken source target) maxDepth

end Schema

end SchemaCatalog
