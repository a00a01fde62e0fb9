/-
  Reading typed data
  ==================
  **Readers of strings, flags, lists and records from a JSON source.**

  A reader goes through a `Source` in order and stops at the first problem,
  in the syntax or in the data.  Where the source comes from is its
  `Medium`: a text, which may be faulty and limits how deep containers
  nest; a value; or a buffer, a piece of either that has been taken in as a
  whole because its form decides what it is.

  A record is given as an object.  Records with a fixed list of fields may
  also be given as an array of the field values in order; `Positional`
  holds what is wrong with the length of such an array, which the three
  media report differently.
-/
import SchemaCatalog.Json.Source
import SchemaCatalog.Text.Quoted

namespace SchemaCatalog

/-- What a reader found in place of what it expected. -/
inductive Found where
  | null
  | bool (b : Bool)
  | num (n : Number)
  | str (s : String)
  | sequence
  | map
deriving DecidableEq, Repr

def Found.text : Found → String
  | null => "null"
  | bool b => "boolean `" ++ (if b then "true" else "false") ++ "`"
  | num (.int n) => "integer `" ++ integerText n ++ "`"
  | num (.float x) => "floating point `" ++ x.text ++ "`"
  | str s => "string " ++ Text.quote s
  | sequence => "sequence"
  | map => "map"

/-- What is wrong with data that are well-formed JSON. -/
inductive DataError where
  | invalidType (found : Found) (expected : String)
  | invalidValue (found : Found) (expected : String)
  | invalidLength (length : Nat) (expected : String)
  | missingField (name : String)
  | duplicateField (name : String)
  | unknownVariant (name : String) (variants : List String)
  /-- None of the forms that the type `name` can take. -/
  | noVariant (name : String)
deriving DecidableEq, Repr

/-- The names in backticks, as a choice. -/
def oneOf : List String → String
  | [a] => "`" ++ a ++ "`"
  | [a, b] => "`" ++ a ++ "` or `" ++ b ++ "`"
  | l => "one of " ++ ", ".intercalate (l.map fun a => "`" ++ a ++ "`")

def DataError.message : DataError → String
  | invalidType found expected => "invalid type: " ++ found.text ++ ", expected " ++ expected
  | invalidValue found expected => "invalid value: " ++ found.text ++ ", expected " ++ expected
  | invalidLength n expected => "invalid length " ++ Nat.repr n ++ ", expected " ++ expected
  | missingField name => "missing field `" ++ name ++ "`"
  | duplicateField name => "duplicate field `" ++ name ++ "`"
  | unknownVariant name variants => "unknown variant `" ++ name ++ "`, expected " ++ oneOf variants
  | noVariant name => "data did not match any variant of untagged enum " ++ name

/-- Why a document could not be read. -/
inductive ReadError where
  | syntaxError (e : SyntaxError)
  | dataError (e : DataError)
deriving DecidableEq, Repr

def ReadError.message : ReadError → String
  | syntaxError e => e.message
  | dataError e => e.message

abbrev Reading := Except ReadError

instance decidableEqExcept {ε α : Type} [DecidableEq ε] [DecidableEq α] :
    DecidableEq (Except ε α)
  | .ok a, .ok b => decidable_of_iff (a = b) ⟨congrArg Except.ok, Except.ok.inj⟩
  | .error e, .error f => decidable_of_iff (e = f) ⟨congrArg Except.error, Except.error.inj⟩
  | .ok _, .error _ | .error _, .ok _ => isFalse nofun

/-- Where a source comes from.  A text allows `room` more nested containers. -/
inductive Medium where
  | text (room : Nat)
  | value
  | buffer
deriving DecidableEq, Repr

/-- A text may nest 127 containers. -/
def Medium.wholeText : Medium := .text 127

namespace Medium

/-- Enters a container. -/
def enter : Medium → Reading Medium
  | text 0 => .error (.syntaxError .recursionLimit)
  | text (room + 1) => .ok (.text room)
  | m => .ok m

/-- Takes in a whole piece; a fault anywhere in a text surfaces here. -/
def takeIn (m : Medium) (s : Source) : Reading Unit :=
  match m with
  | text room =>
    match s.fault? room with
    | some e => .error (.syntaxError e)
    | none => .ok ()
  | value | buffer => .ok ()

/-- Passes over a piece. -/
def skip (m : Medium) (s : Source) : Reading Unit :=
  match m with
  | text _ =>
    match s.skipFault? with
    | some e => .error (.syntaxError e)
    | none => .ok ()
  | value | buffer => .ok ()

end Medium

namespace Source

def found : Source → Found
  | null | flawed _ | broken _ => .null
  | bool b => .bool b
  | num n => .num n
  | str s => .str s
  | arr .. => .sequence
  | obj .. => .map

/-- The error of a source that is not what was expected; a fault comes first. -/
def mismatch (s : Source) (expected : String) : ReadError :=
  match s with
  | flawed e => .syntaxError e
  | broken b => .syntaxError b.read
  | s => .dataError (.invalidType s.found expected)

/-- The end of a container that has been read. -/
def finish : Option Break → Reading Unit
  | none => .ok ()
  | some b => .error (.syntaxError b.read)

def readString : Source → Reading String
  | str s => .ok s
  | s => .error (s.mismatch "a string")

def readBool : Source → Reading Bool
  | bool b => .ok b
  | s => .error (s.mismatch "a boolean")

/-- Reads `null` as absence. -/
def readOptional {α : Type} (read : Source → Reading α) : Source → Reading (Option α)
  | null => .ok none
  | s => (read s).map some

def readList {α : Type} (m : Medium) (read : Medium → Source → Reading α) (s : Source) :
    Reading (List α) :=
  match s with
  | arr elements ending => do
    let m ← m.enter
    let l ← elements.mapM (read m)
    finish ending
    return l
  | s => .error (s.mismatch "a sequence")

/-- Reads one of the names of a choice, given as a string or as the only member of an object,
    which then is `null`. -/
def readChoice (names : List String) (s : Source) : Reading String :=
  let known (name : String) : Reading String :=
    if name ∈ names then .ok name else .error (.dataError (.unknownVariant name names))
  match s with
  | str name => known name
  | obj [(.ok name, v)] _ => do
    let name ← known name
    match v with
    | null => return name
    | v => throw (v.mismatch "unit")
  | obj .. => .error (.dataError (.invalidValue .map "map with a single key"))
  | s => .error (s.mismatch "string or map")

/-- Reads any value. -/
def readJson (m : Medium) (s : Source) : Reading Json := do
  m.takeIn s
  return s.toJson

end Source

/-! ### Records -/

/-- A name in a text may be faulty. -/
def readKey : Except SyntaxError String → Reading String
  | .ok k => .ok k
  | .error e => .error (.syntaxError e)

/-- Reads the members of an object in order.  `known` are the names that must not repeat;
    `read` takes one member into what has been read so far. -/
def readMembers {σ π : Type} (known : List String) (read : String → π → σ → Reading σ)
    (seen : List String) (acc : σ) : List (Except SyntaxError String × π) → Reading σ
  | [] => .ok acc
  | (k, s) :: rest => do
    let k ← readKey k
    if k ∈ seen then throw (.dataError (.duplicateField k))
    let acc ← read k s acc
    readMembers known read (if k ∈ known then k :: seen else seen) acc rest

/-- What is wrong with an array of `given` values, as one more `expected` was to be read
    for the record `name` of `fields` fields. -/
def tooFew (name : String) (given fields : Nat) : ReadError :=
  .dataError <| .invalidLength given <|
    "struct " ++ name ++ " with " ++ Nat.repr fields ++ " elements"

/-- Checks the end of an array that gives a record of `fields` fields. -/
def finishPositional (m : Medium) (fields : Nat) (given : Nat) (ending : Option Break) :
    Reading Unit :=
  match m with
  | .text _ =>
    if fields < given then .error (.syntaxError .trailingCharacters)
    else
      match ending with
      | none => .ok ()
      | some ⟨.trailingComma, _⟩ => .error (.syntaxError .trailingComma)
      | some ⟨.endOfList, _⟩ => .error (.syntaxError .endOfList)
      | some _ => .error (.syntaxError .trailingCharacters)
  | .value =>
    if fields < given then .error (.dataError (.invalidLength given "fewer elements in array"))
    else .ok ()
  | .buffer =>
    if fields < given then
      let unit := if fields = 1 then " element" else " elements"
      .error (.dataError (.invalidLength given (Nat.repr fields ++ unit ++ " in sequence")))
    else .ok ()

/-- How far an array that gives a record has been read. -/
structure Positional where
  rest : List Source
  taken : Nat := 0
  ending : Option Break

/-- The next field; where the array has ended, `absent` says what the field then is, given the
    number of fields before it. -/
def Positional.next {α : Type} (read : Source → Reading α) (absent : Nat → Reading α)
    (p : Positional) : Reading (α × Positional) :=
  match p.rest, p.ending with
  | [], some b => .error (.syntaxError b.read)
  | [], none => do return (← absent p.taken, { p with taken := p.taken + 1 })
  | s :: rest, _ => do return (← read s, { p with rest, taken := p.taken + 1 })

/-- Reads the record `name` of `fields` fields from an object or from an array. -/
def readRecord {α : Type} (name : String) (fields : Nat)
    (ofMembers : Medium → List (Except SyntaxError String × Source) → Option Break → Reading α)
    (ofElements : Medium → Positional → Reading α) (m : Medium) : Source → Reading α
  | .obj members ending => do ofMembers (← m.enter) members ending
  | .arr elements ending => do
    let m ← m.enter
    let v ← ofElements m { rest := elements, ending }
    finishPositional m fields elements.length ending
    return v
  | s => .error (s.mismatch ("struct " ++ name))

/-- A field of a record that must be given. -/
def require {α : Type} (name : String) : Option α → Reading α
  | some v => .ok v
  | none => .error (.dataError (.missingField name))

/-- Reads a whole text. -/
def readText {α : Type} (read : Medium → Source → Reading α) (bytes : Bytes) : Reading α := do
  let doc := Document.ofBytes bytes
  let v ← read .wholeText doc.root
  if doc.trailing then throw (.syntaxError .trailingCharacters)
  return v

/-- Reads a value that is already in memory. -/
def readValue {α : Type} (read : Medium → Source → Reading α) (v : Json) : Reading α :=
  read .value (.ofJson v)

/-- The value of a text. -/
def Json.ofBytes (bytes : Bytes) : Reading Json := readText Source.readJson bytes

end SchemaCatalog
