/-
  Checking
  ========
  **The command that inspects a registry and lists what it finds.**

  It ends with code 1 if there is an error among what it lists.
-/
import SchemaCatalog.Command.Transcript
import SchemaCatalog.Diagnostic.Inspection
import SchemaCatalog.Diagnostic.Format

namespace SchemaCatalog

namespace Command

namespace Check

def layout : Layout where
  name := "schema-check"
  about := "Check entity schemas for consistency, valid examples and conflicts"
  switches := [
    .bundle, .config, .entity "Only check these entities",
    { name := "skip-examples", description := "Skip example validation" },
    { name := "format", letter := some 'f', takes := some .text, default := some "text",
      description := "Output format (text, json)" },
    .help]

/-- What is printed before the inspection, in text form. -/
def headline (r : Registry) : String := "🔍 Checking " ++ Nat.repr r.size ++ " entities\n\n"

/-- What is printed last, in text form; `n` entities were inspected. -/
def verdict (l : Diagnostics) (n : Nat) : String :=
  if l.hasErrors then
    "❌ " ++ Nat.repr l.errorCount ++ " error(s) across " ++ Nat.repr n ++ " entities\n"
  else "✅ All " ++ Nat.repr n ++ " entities consistent\n"

/-- The transcript of an inspection. -/
def report (c : Config) (r : Registry) (g : Given) : Transcript :=
  let inText := g.value? "format" ≠ some "json"
  let names := g.values "entity"
  let head := if inText then headline r else ""
  match r.inspect c (g.has "skip-examples") names with
  | .error e => .failed (.schema e) head
  | .ok l =>
    let body :=
      if inText then l.text ++ verdict l (r.namesToInspect names).length
      else c.render l.ordered ++ "\n"
    { exitCode := if l.hasErrors then 1 else 0, output := head ++ body }

def run {m : Type → Type} [Monad m] (files : FileAccess m) (around : Surroundings) (g : Given) :
    ExceptT Failure m Transcript := do
  let (c, r) ← openRegistry files around g
  return report c r g

end Check

end Command

end SchemaCatalog
