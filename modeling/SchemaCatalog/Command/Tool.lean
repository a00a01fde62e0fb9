/-
  Tools
  =====
  **The programs, by name.**
-/
import SchemaCatalog.Command.Check
import SchemaCatalog.Command.Dereference
import SchemaCatalog.Command.Components
import SchemaCatalog.Command.Configuration

namespace SchemaCatalog

namespace Command

inductive Tool where
  | check
  | dereference
  | components
  | configuration
deriving DecidableEq, Repr

namespace Tool

def all : List Tool := [check, dereference, components, configuration]

def name : Tool → String
  | check => Check.layout.name
  | dereference => Dereference.layout.name
  | components => Components.layout.name
  | configuration => Configuration.layouts.own.name

def ofName? (name : String) : Option Tool := all.find? fun t => t.name = name

section

variable {m : Type → Type} [Monad m] (files : FileAccess m) (around : Surroundings)

/-- Reads the words of a command and runs it. -/
def runWith {α : Type} (words : Reading α) (command : α → ExceptT Failure m Transcript) :
    m Transcript := do
  match words with
  | .error stop => return .ofStop stop
  | .ok given => return .ofExcept (← (command given).run)

/-- Runs a tool with the words that follow its name. -/
def run (t : Tool) (words : List String) : m Transcript :=
  match t with
  | check => runWith (Check.layout.read words) (Check.run files around)
  | dereference => runWith (Dereference.layout.read words) (Dereference.run files around)
  | components => runWith (Components.layout.read words) (Components.run files around)
  | configuration =>
    runWith (Configuration.layouts.read words) fun (own, command, g) =>
      Configuration.run files around own command g

end

end Tool

end Command

end SchemaCatalog
