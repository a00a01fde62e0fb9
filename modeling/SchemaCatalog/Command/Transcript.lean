/-
  Transcripts
  ===========
  **What a command prints, and how it ends.**

  A command that fails prints why to its error output, behind what it has
  printed before, and ends with code 1; one that is refused because of how
  it is called ends with code 2.
-/
import SchemaCatalog.Command.Line
import SchemaCatalog.Config.Reader
import SchemaCatalog.Bundle.Files

namespace SchemaCatalog

namespace Command

/-- Why a command fails. -/
inductive Failure where
  | config (e : ConfigError)
  | schema (e : SchemaError)
  | file (e : FileError)
  | unknownEntity (name : String) (suggestions : List String)
  /-- A file that would be overwritten. -/
  | present (path : String)
deriving DecidableEq, Repr

def Failure.message : Failure → String
  | config e => e.message
  | schema e => e.message
  | file e => e.message
  | unknownEntity name suggestions =>
    "entity " ++ name ++ " not found" ++
      if suggestions.isEmpty then "" else "; did you mean: " ++ ", ".intercalate suggestions
  | present path => path ++ " already exists (use --force to overwrite)"

structure Transcript where
  exitCode : Nat := 0
  output : String := ""
  errorOutput : String := ""
deriving DecidableEq, Repr

namespace Transcript

/-- A failure after something was printed. -/
def failed (f : Failure) (output : String) : Transcript where
  exitCode := 1
  output
  errorOutput := "❌ Error: " ++ f.message ++ "\n"

/-- The end of a command that may fail. -/
def ofExcept : Except Failure Transcript → Transcript
  | .ok t => t
  | .error f => failed f ""

def ofStop : Stop → Transcript
  | .help text => { output := text }
  | .misuse m => { exitCode := 2, errorOutput := "error: " ++ m.message ++ "\n" }

end Transcript

/-! ### What commands have in common -/

def Switch.bundle : Switch where
  name := "bundle"
  letter := some 'b'
  takes := some .path
  description := "Entity bundle file or directory (defaults to [bundle] path)"

def Switch.config : Switch where
  name := "config"
  letter := some 'c'
  takes := some .text
  description := "Configuration file"

/-- A choice of entities; `description` says for what. -/
def Switch.entity (description : String) : Switch where
  name := "entity"
  letter := some 'e'
  takes := some .text
  repeats := true
  description

def Switch.output : Switch where
  name := "output"
  letter := some 'o'
  takes := some .path
  description := "Output file (stdout if omitted)"

section

variable {m : Type → Type} [Monad m] (files : FileAccess m) (around : Surroundings)

/-- A step of a command, with its failures as failures of the command. -/
def failingAs {ε α : Type} (f : ε → Failure) (step : m (Except ε α)) : ExceptT Failure m α :=
  ExceptT.mk ((Except.mapError f) <$> step)

/-- An operation on schemas, as a step of a command. -/
def orFail {α : Type} (o : Outcome α) : ExceptT Failure m α := failingAs .schema (pure o)

/-- The configuration of a command. -/
def openConfig (g : Given) : ExceptT Failure m Config :=
  failingAs .config (Config.load files around (g.value? "config"))

/-- The configuration and the registry of a command. -/
def openRegistry (g : Given) : ExceptT Failure m (Config × Registry) := do
  let c ← openConfig files around g
  let r ← failingAs .schema (Bundle.loadRegistry files c around.directory (g.value? "bundle"))
  return (c, r)

/-- Writes a text to a file. -/
def writeFile (path text : String) : ExceptT Failure m Unit :=
  failingAs .file (files.write path (Bytes.ofString text))

/-- Writes a text to the file that was asked for, or prints it; `written` tells what is
    written. -/
def deliver (g : Given) (text written : String) : ExceptT Failure m Transcript := do
  match g.value? "output" with
  | some path =>
    writeFile files path text
    return { output := "✅ " ++ written ++ " to " ++ path ++ "\n" }
  | none => return { output := text ++ "\n" }

end

end Command

end SchemaCatalog
