/-
  Dereferencing
  =============
  **The command that prints the schema of one entity with what it refers
  to.**
-/
import SchemaCatalog.Command.Transcript
import SchemaCatalog.Diagnostic.Inspection

namespace SchemaCatalog

namespace Command

namespace Dereference

def layout : Layout where
  name := "schema-deref"
  about := "Inline referenced entities into an entity's schema"
  operands := [{ name := "ENTITY", description := "Entity to dereference" }]
  switches := [
    .bundle, .config,
    { name := "shallow", description := "Inline only direct references" },
    { name := "publish", description := "Rewrite references to the output prefix" },
    .output, .help]

/-- The registered entity of a name. -/
def entityOf (r : Registry) (name : String) : Except Failure Entity :=
  match r.get? name with
  | some e => .ok e
  | none => .error (.unknownEntity name (r.suggest name suggestionLimit))

/-- The schema of an entity with what it refers to inside its definitions. -/
def schemaOf (c : Config) (r : Registry) (shallow publish : Bool) (e : Entity) :
    Outcome Schema := do
  let s ← e.readSchema
  let s ←
    if shallow then s.dereference r c.resolverOptions
    else s.dereferenceTransitive r c.resolverOptions
  if publish then s.retargetReached c.publishOptions else return s

def run {m : Type → Type} [Monad m] (files : FileAccess m) (around : Surroundings) (g : Given) :
    ExceptT Failure m Transcript := do
  let (c, r) ← openRegistry files around g
  let name := g.operand 0
  let e ← ExceptT.mk (pure (entityOf r name))
  let s ← orFail (schemaOf c r (g.has "shallow") (g.has "publish") e)
  deliver files g (c.render s.ordered)
    ("Wrote " ++ name ++ " (" ++ Nat.repr s.definitions.size ++ " definitions)")

end Dereference

end Command

end SchemaCatalog
