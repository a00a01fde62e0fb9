/-
  Written diagnostics
  ===================
  **Diagnostics as lines of text, as JSON, and read from JSON.**
-/
import SchemaCatalog.Diagnostic.Basic
import SchemaCatalog.Json.Writer
import SchemaCatalog.Json.Decode

namespace SchemaCatalog

def Severity.text : Severity → String
  | info => "info"
  | warning => "warning"
  | error => "error"

namespace Diagnostic

/-! ### Text -/

/-- A line with the code, and one for each piece of context. -/
def text (d : Diagnostic) : String :=
  "[" ++ d.code.short ++ "] " ++ d.severity.text ++ ": " ++ d.message ++ " (" ++ d.entity ++ ")" ++
    String.join (d.context.map fun c => "\n  - " ++ c)

/-! ### JSON -/

def ordered (d : Diagnostic) : OrderedJson :=
  .obj <|
    [("entity", .str d.entity), ("code", .str d.code.name)] ++
    (d.breadcrumb.map fun b => ("breadcrumb", OrderedJson.str b)).toList ++
    [("message", .str d.message)] ++
    (if d.context.isEmpty then [] else [("context", .arr (d.context.map .str))])

def toJson (d : Diagnostic) : Json := d.ordered.toJson

/-- Reads a code by its name. -/
def readCode (s : Source) : Reading DiagnosticCode := do
  let name ← s.readChoice (DiagnosticCode.all.map DiagnosticCode.name)
  return (DiagnosticCode.all.find? fun c => c.name = name).getD .other

def readContext (m : Medium) (s : Source) : Reading (List String) :=
  s.readList m fun _ => Source.readString

/-- The members read so far. -/
structure Draft where
  entity : Option String := none
  code : Option DiagnosticCode := none
  breadcrumb : Option String := none
  message : Option String := none
  context : List String := []

def ofMembers (m : Medium) (members : List (Except SyntaxError String × Source))
    (ending : Option Break) : Reading Diagnostic := do
  let draft ← readMembers ["entity", "code", "breadcrumb", "message", "context"]
    (fun k s (d : Draft) =>
      match k with
      | "entity" => return { d with entity := some (← s.readString) }
      | "code" => return { d with code := some (← readCode s) }
      | "breadcrumb" => return { d with breadcrumb := ← s.readOptional Source.readString }
      | "message" => return { d with message := some (← s.readString) }
      | "context" => return { d with context := ← readContext m s }
      | _ => do
        m.skip s
        return d)
    [] {} members
  Source.finish ending
  return {
    entity := ← require "entity" draft.entity
    code := ← require "code" draft.code
    breadcrumb := draft.breadcrumb
    message := ← require "message" draft.message
    context := draft.context }

def ofElements (m : Medium) (p : Positional) : Reading Diagnostic := do
  let absent {α : Type} (n : Nat) : Reading α := .error (tooFew "DiagnosticItem" n 5)
  let (entity, p) ← p.next Source.readString absent
  let (code, p) ← p.next readCode absent
  let (breadcrumb, p) ← p.next (fun s => s.readOptional Source.readString) fun _ => .ok none
  let (message, p) ← p.next Source.readString absent
  let (context, _) ← p.next (readContext m) fun _ => .ok []
  return { entity, code, breadcrumb, message, context }

def read : Medium → Source → Reading Diagnostic :=
  readRecord "DiagnosticItem" 5 ofMembers ofElements

/-- Reads a diagnostic from a value. -/
def ofJson (v : Json) : Reading Diagnostic := readValue read v

end Diagnostic

namespace Diagnostics

/-- All diagnostics, one after the other, and their number if there are errors or warnings. -/
def text (l : Diagnostics) : String :=
  String.join (l.map fun d => d.text ++ "\n") ++
    if l.hasErrors then
      "\n" ++ Nat.repr l.errorCount ++ " error(s), " ++ Nat.repr l.warningCount ++ " warning(s)\n"
    else if 0 < l.warningCount then "\n" ++ Nat.repr l.warningCount ++ " warning(s)\n"
    else ""

def ordered (l : Diagnostics) : OrderedJson := .obj [("items", .arr (l.map Diagnostic.ordered))]

end Diagnostics

end SchemaCatalog
