/-
  Command lines
  =============
  **What a command may be given, and reading it.**

  A layout lists the switches and operands of a command.  A switch has a
  name behind two dashes and perhaps a letter behind one; its value is the
  next word, or stands in the same word behind an equals sign or directly
  behind the letter.  A word that begins with a dash is never the value of
  the switch before it.  Two dashes alone end the switches.

  Words are read from left to right and the first that does not fit, or that
  asks for help, ends the reading.
-/
import SchemaCatalog.Table

namespace SchemaCatalog

namespace Command

/-! ### Layouts -/

inductive ValueKind where
  | text
  /-- A path, which has at least one character. -/
  | path
deriving DecidableEq, Repr

structure Switch where
  name : String
  letter : Option Char := none
  /-- The kind of its value, if it has one. -/
  takes : Option ValueKind := none
  /-- Whether it may be given more than once. -/
  repeats : Bool := false
  /-- The value if it is not given. -/
  default : Option String := none
  /-- Whether it asks for help and nothing else. -/
  isHelp : Bool := false
  description : String
deriving DecidableEq, Repr

/-- The switch that every command has. -/
def Switch.help : Switch where
  name := "help"
  letter := some 'h'
  isHelp := true
  description := "Print help"

structure Operand where
  name : String
  kind : ValueKind := .text
  required : Bool := true
  repeats : Bool := false
  default : Option String := none
  description : String
deriving DecidableEq, Repr

structure Layout where
  name : String
  about : String
  operands : List Operand := []
  switches : List Switch := [.help]
  /-- The commands that may follow, with what they do. -/
  commands : List (String × String) := []
deriving Repr

/-- Why a command line is refused. -/
inductive Misuse where
  | unknownSwitch (word : String)
  | unexpectedOperand (word : String)
  | missingValue (name : String)
  | unneededValue (name : String)
  | repeatedSwitch (name : String)
  | emptyPath (name : String)
  | missingOperand (name : String)
  | missingCommand
  | unknownCommand (word : String)
deriving DecidableEq, Repr

def Misuse.message : Misuse → String
  | unknownSwitch word | unexpectedOperand word => "unexpected argument '" ++ word ++ "' found"
  | missingValue name | emptyPath name => "a value is required for '--" ++ name ++ "'"
  | unneededValue name => "unexpected value for '--" ++ name ++ "' found"
  | repeatedSwitch name => "the argument '--" ++ name ++ "' cannot be used multiple times"
  | missingOperand name => "the required argument <" ++ name ++ "> was not provided"
  | missingCommand => "a subcommand is required"
  | unknownCommand word => "unrecognized subcommand '" ++ word ++ "'"

/-- Why a command is not run. -/
inductive Stop where
  /-- Help was asked for, and this is it. -/
  | help (text : String)
  | misuse (m : Misuse)
deriving DecidableEq, Repr

abbrev Reading := Except Stop

def refuse {α : Type} (m : Misuse) : Reading α := .error (.misuse m)

/-! ### Help -/

/-- Descriptions in a column behind what they describe. -/
def describedLines (rows : List (String × String)) : List String :=
  let width := (rows.map fun (left, _) => left.length).foldl max 0
  rows.map fun (left, description) =>
    "  " ++ left ++ String.ofList (List.replicate (width - left.length + 2) ' ') ++ description

/-- A headed part of the help, unless it is empty. -/
def helpPart (heading : String) (rows : List (String × String)) : List String :=
  if rows.isEmpty then [] else ["", heading ++ ":"] ++ describedLines rows

def withDefault (description : String) (default : Option String) : String :=
  description ++ (default.map fun v => " [default: " ++ v ++ "]").getD ""

def Operand.usage (o : Operand) : String :=
  (if o.required then "<" ++ o.name ++ ">" else "[" ++ o.name ++ "]") ++
    if o.repeats then "..." else ""

def Operand.row (o : Operand) : String × String :=
  (o.usage, withDefault o.description o.default)

def Switch.row (s : Switch) : String × String :=
  let letter := match s.letter with
    | some c => String.ofList ['-', c, ',', ' ']
    | none => "    "
  let value :=
    if s.takes.isSome then " <" ++ String.ofList (s.name.toList.map Char.toUpper) ++ ">" else ""
  (letter ++ "--" ++ s.name ++ value, withDefault s.description s.default)

def Layout.usage (l : Layout) : String :=
  " ".intercalate <|
    ["Usage:", l.name] ++
    (if l.switches.any fun s => !s.isHelp then ["[OPTIONS]"] else []) ++
    l.operands.map Operand.usage ++
    (if l.commands.isEmpty then [] else ["<COMMAND>"])

def Layout.helpText (l : Layout) : String :=
  String.join <| List.map (· ++ "\n") <|
    [l.about, "", l.usage] ++
    helpPart "Commands" l.commands ++
    helpPart "Arguments" (l.operands.map Operand.row) ++
    helpPart "Options" (l.switches.map Switch.row)

/-! ### Reading -/

/-- What a command is given. -/
structure Given where
  /-- The switches by name, each with its value, in order. -/
  switches : List (String × String) := []
  operands : List String := []
deriving DecidableEq, Repr

namespace Given

def has (g : Given) (name : String) : Bool := g.switches.any fun (n, _) => n = name

def values (g : Given) (name : String) : List String :=
  g.switches.filterMap fun (n, v) => if n = name then some v else none

def value? (g : Given) (name : String) : Option String := (g.values name).head?

def operand (g : Given) (i : Nat) : String := g.operands.getD i ""

end Given

/-- What is read so far. -/
structure Progress where
  given : Given := {}
  /-- A switch whose value comes next. -/
  awaiting : Option Switch := none
  operandsOnly : Bool := false
deriving Repr

namespace Progress

/-- Adds a switch with its value. -/
def addSwitch (p : Progress) (s : Switch) (value : String) : Reading Progress :=
  if !s.repeats && p.given.has s.name then refuse (.repeatedSwitch s.name)
  else if s.takes = some .path ∧ value = "" then refuse (.emptyPath s.name)
  else
    .ok { p with
      given := { p.given with switches := p.given.switches ++ [(s.name, value)] }
      awaiting := none }

/-- Adds an operand, the next one of the layout. -/
def addOperand (l : Layout) (p : Progress) (value : String) : Reading Progress :=
  match l.operands[p.given.operands.length]? with
  | none => refuse (.unexpectedOperand value)
  | some o =>
    if o.kind = .path ∧ value = "" then refuse (.emptyPath o.name)
    else .ok { p with given := { p.given with operands := p.given.operands ++ [value] } }

end Progress

namespace Layout

/-- Reads the letters behind one dash. -/
def readLetters (l : Layout) (p : Progress) : List Char → Reading Progress
  | [] => .ok p
  | c :: rest =>
    match l.switches.find? fun s => s.letter = some c with
    | none => refuse (.unknownSwitch (String.ofList ['-', c]))
    | some s =>
      if s.isHelp then .error (.help l.helpText)
      else if s.takes.isSome then
        match rest with
        | [] => .ok { p with awaiting := some s }
        | '=' :: value => p.addSwitch s (String.ofList value)
        | value => p.addSwitch s (String.ofList value)
      else do readLetters l (← p.addSwitch s "") rest

/-- Reads a name behind two dashes, with the value behind an equals sign. -/
def readName (l : Layout) (p : Progress) (name : String) (value : Option String) :
    Reading Progress :=
  match l.switches.find? fun s => s.name = name, value with
  | none, _ => refuse (.unknownSwitch ("--" ++ name))
  | some s, none =>
    if s.isHelp then .error (.help l.helpText)
    else if s.takes.isSome then .ok { p with awaiting := some s }
    else p.addSwitch s ""
  | some s, some v => if s.takes.isSome then p.addSwitch s v else refuse (.unneededValue name)

/-- Reads one word. -/
def readWord (l : Layout) (p : Progress) (word : String) : Reading Progress :=
  if p.operandsOnly then p.addOperand l word
  else
    match word.toList, p.awaiting with
    | '-' :: _ :: _, some s => refuse (.missingValue s.name)
    | _, some s => p.addSwitch s word
    | ['-', '-'], none => .ok { p with operandsOnly := true }
    | '-' :: '-' :: text, none =>
      let name := String.ofList (text.takeWhile (· ≠ '='))
      l.readName p name ((text.dropWhile (· ≠ '=')).tail?.map String.ofList)
    | '-' :: c :: letters, none => l.readLetters p (c :: letters)
    | _, none => p.addOperand l word

/-- What is given once all words are read: nothing may be missing, and defaults are added. -/
def finish (l : Layout) (p : Progress) : Reading Given := do
  if let some s := p.awaiting then refuse (.missingValue s.name)
  let missing := l.operands.drop p.given.operands.length
  if let some o := missing.find? fun o => o.required then refuse (.missingOperand o.name)
  let switches := l.switches.filterMap fun s =>
    if p.given.has s.name then none else s.default.map (s.name, ·)
  return ⟨p.given.switches ++ switches, p.given.operands ++ missing.filterMap (·.default)⟩

/-- Reads the words of a command. -/
def read (l : Layout) (words : List String) : Reading Given := do
  l.finish (← words.foldlM l.readWord {})

end Layout

/-! ### Commands of a program -/

/-- A program of several commands: its own switches stand before the command. -/
structure Group where
  own : Layout
  /-- The commands by name. -/
  members : List (String × Layout)
deriving Repr

namespace Group

/-- What the command that gives help says about itself. -/
def helpAbout : String := "Print this message or the help of the given subcommand(s)"

def layout (g : Group) : Layout where
  name := g.own.name
  about := g.own.about
  operands := g.own.operands
  switches := g.own.switches
  commands := (g.members.map fun (name, l) => (name, l.about)) ++ [("help", helpAbout)]

/-- The command that gives help. -/
def helpLayout (g : Group) : Layout where
  name := g.own.name ++ " help"
  about := helpAbout
  operands := [{
    name := "COMMAND", required := false, repeats := true,
    description := "Print help for the subcommand(s)" }]
  switches := []

/-- Gives the help of a command. -/
def giveHelp {α : Type} (g : Group) : List String → Reading α
  | [] => .error (.help g.layout.helpText)
  | [name] =>
    match (g.members ++ [("help", g.helpLayout)]).lookup name with
    | some l => .error (.help l.helpText)
    | none => refuse (.unknownCommand name)
  | _ :: name :: _ => refuse (.unknownCommand name)

/-- Reads the words of a program: what it is given itself, the command, and what that is given. -/
def readFrom (g : Group) (p : Progress) : List String → Reading (Given × String × Given)
  | [] => refuse .missingCommand
  | word :: rest =>
    if p.operandsOnly then refuse (.unknownCommand word)
    else if p.awaiting.isNone && word.toList.head? ≠ some '-' then
      match g.members.lookup word with
      | some l => do return (p.given, word, ← l.read rest)
      | none => if word = "help" then g.giveHelp rest else refuse (.unknownCommand word)
    else do readFrom g (← g.layout.readWord p word) rest

def read (g : Group) (words : List String) : Reading (Given × String × Given) :=
  g.readFrom {} words

end Group

end Command

end SchemaCatalog
