/-
  Components
  ==========
  **The command that collects published schemas in one document.**
-/
import SchemaCatalog.Command.Transcript

namespace SchemaCatalog

namespace Command

namespace Components

def layout : Layout where
  name := "schema-components"
  about := "Export published entity schemas as one components document"
  switches := [
    .bundle, .config, .entity "Only export these entities (and what they define)",
    .output, .help]

/-- The published schemas of the entities that are asked for, or of all. -/
def tableOf (c : Config) (r : Registry) (g : Given) : Outcome (Table Schema) :=
  let names := g.values "entity"
  r.components c.publishOptions (if names.isEmpty then none else some names)

def run {m : Type → Type} [Monad m] (files : FileAccess m) (around : Surroundings) (g : Given) :
    ExceptT Failure m Transcript := do
  let (c, r) ← openRegistry files around g
  let t ← orFail (tableOf c r g)
  deliver files g (c.render (componentsJson t).ordered)
    ("Exported " ++ Nat.repr t.size ++ " schemas")

end Components

end Command

end SchemaCatalog
