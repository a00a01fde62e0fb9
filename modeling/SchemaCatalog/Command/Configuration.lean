/-
  Configuration commands
  ======================
  **The commands that show the configuration in force and write the default
  one.**
-/
import SchemaCatalog.Command.Transcript

namespace SchemaCatalog

namespace Command

namespace Configuration

def layouts : Group where
  own := {
    name := "schema-config"
    about := "Inspect or initialize schema tool configuration"
    switches := [.config, .help] }
  members := [
    ("show", {
      name := "schema-config show"
      about := "Print the effective configuration as TOML" }),
    ("init", {
      name := "schema-config init"
      about := "Write the default configuration"
      operands := [{
        name := "PATH", kind := .path, required := false, default := some "schemas.toml",
        description := "Destination file" }]
      switches := [{ name := "force", description := "Overwrite an existing file" }, .help] })]

section

variable {m : Type → Type} [Monad m] (files : FileAccess m) (around : Surroundings)

/-- Prints the configuration in force. -/
def runShow (g : Given) : ExceptT Failure m Transcript := do
  let c ← openConfig files around g
  return { output := ← failingAs .file (pure c.text) }

/-- Writes the default configuration. -/
def runInit (g : Given) : ExceptT Failure m Transcript := do
  let path := g.operand 0
  if (← files.isPresent path) && !g.has "force" then throw (.present path)
  writeFile files path (← failingAs .file (pure ({} : Config).text))
  return { output := "✅ Wrote default configuration to " ++ path ++ "\n" }

def run (own : Given) (command : String) (g : Given) : ExceptT Failure m Transcript :=
  if command = "init" then runInit files g else runShow files around own

end

end Configuration

end Command

end SchemaCatalog
