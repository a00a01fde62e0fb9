/-
  JSON source trees
  =================
  **A JSON text as a tree, as far as it can be read.**

  `Source` is what a reader of typed data works on.  It keeps what the
  value of a text forgets: the order of the members of an object, members
  that repeat a name, scalars without a value, and the place where the text
  breaks off.  Reading stays lazy in effect: a fault is met only by a
  reader that gets to it, so of two faults the one that stands first is
  reported, whether it concerns the syntax or the data.

  The tree is built from tokens by a left fold (`Assembly.step`).  A break
  inside containers ends all of them.  `Source.fault?` is the first
  fault of a value that is read as a whole, with `room` nested containers
  allowed; `Source.skipFault?` that of a value that is passed over.
-/
import SchemaCatalog.Json.Token

namespace SchemaCatalog

inductive Source where
  | null
  | bool (b : Bool)
  | num (n : Number)
  | str (s : String)
  /-- A scalar that can be delimited but has no value. -/
  | flawed (e : SyntaxError)
  /-- The text stops at this value. -/
  | broken (b : Break)
  /-- An array; `ending` is the break that stands in place of the closing bracket. -/
  | arr (elements : List Source) (ending : Option Break)
  /-- An object; a name without a value carries the reason. -/
  | obj (members : List (Except SyntaxError String × Source)) (ending : Option Break)

/-- A whole text: its value, and whether anything but separators follows it. -/
structure Document where
  root : Source
  trailing : Bool

namespace Source

mutual

/-- The first fault of a value that is read with at most `room` nested containers. -/
def fault? (room : Nat) : Source → Option SyntaxError
  | flawed e => some e
  | broken b => some b.read
  | arr elements ending =>
    match room with
    | 0 => some .recursionLimit
    | room + 1 => (faultOfElements? room elements).or (ending.map Break.read)
  | obj members ending =>
    match room with
    | 0 => some .recursionLimit
    | room + 1 => (faultOfMembers? room members).or (ending.map Break.read)
  | null | bool _ | num _ | str _ => none

def faultOfElements? (room : Nat) : List Source → Option SyntaxError
  | [] => none
  | s :: rest => (fault? room s).or (faultOfElements? room rest)

def faultOfMembers? (room : Nat) :
    List (Except SyntaxError String × Source) → Option SyntaxError
  | [] => none
  | (.error e, _) :: _ => some e
  | (.ok _, s) :: rest => (fault? room s).or (faultOfMembers? room rest)

end

mutual

/-- The first fault of a value that is passed over. -/
def skipFault? : Source → Option SyntaxError
  | broken b => some b.skipped
  | arr elements ending => (skipFaultOfElements? elements).or (ending.map Break.skipped)
  | obj members ending => (skipFaultOfMembers? members).or (ending.map Break.skipped)
  | null | bool _ | num _ | str _ | flawed _ => none

def skipFaultOfElements? : List Source → Option SyntaxError
  | [] => none
  | s :: rest => (skipFault? s).or (skipFaultOfElements? rest)

def skipFaultOfMembers? : List (Except SyntaxError String × Source) → Option SyntaxError
  | [] => none
  | (_, s) :: rest => (skipFault? s).or (skipFaultOfMembers? rest)

end

mutual

/-- The value of a source without faults; of two members with one name the later counts.
    A fault counts as `null`. -/
def toJson : Source → Json
  | null => .null
  | bool b => .bool b
  | num n => .num n
  | str s => .str s
  | flawed _ | broken _ => .null
  | arr elements _ => .arr (toElements elements)
  | obj members _ => .obj (toMembers {} members)

def toElements : List Source → List Json
  | [] => []
  | s :: rest => toJson s :: toElements rest

/-- Adds the members to `acc`, in order. -/
def toMembers (acc : Table Json) : List (Except SyntaxError String × Source) → Table Json
  | [] => acc
  | (.ok k, s) :: rest => toMembers (acc.insert k (toJson s)) rest
  | (.error _, _) :: rest => toMembers acc rest

end

mutual

/-- A value as a source: without faults, the members of an object in the order of their names. -/
def ofJson : Json → Source
  | .null => null
  | .bool b => bool b
  | .num n => num n
  | .str s => str s
  | .arr elements => arr (ofElements elements) none
  | .obj ⟨members⟩ => obj (ofMembers members) none

def ofElements : List Json → List Source
  | [] => []
  | v :: rest => ofJson v :: ofElements rest

def ofMembers : List (String × Json) → List (Except SyntaxError String × Source)
  | [] => []
  | (k, v) :: rest => (.ok k, ofJson v) :: ofMembers rest

end

end Source

/-! ### From tokens to a tree -/

/-- A container that is still open, its contents latest first; an object may have a name
    that waits for its value. -/
inductive Frame where
  | array (elements : List Source)
  | object (members : List (Except SyntaxError String × Source)) (key : Except SyntaxError String)

/-- What the text may go on with. -/
inductive Expecting where
  /-- The value of the whole text. -/
  | root
  /-- An element or, if it would be the first, the closing bracket. -/
  | element (first : Bool)
  | commaOrBracket
  /-- A name or, if it would be the first, the closing brace. -/
  | key (first : Bool)
  | colon
  | value
  | commaOrBrace
  /-- Nothing: the text is complete, or it broke. -/
  | nothing
deriving DecidableEq, Repr

/-- A tree in progress: the open containers, innermost first, and the finished value. -/
structure Assembly where
  frames : List Frame := []
  expecting : Expecting := .root
  result : Option Source := none
  trailing : Bool := false

namespace Assembly

/-- Puts a complete value where it belongs. -/
def deliver (a : Assembly) (s : Source) : Assembly :=
  match a.frames with
  | [] => { a with result := some s, expecting := .nothing }
  | .array es :: rest => { a with frames := .array (s :: es) :: rest, expecting := .commaOrBracket }
  | .object ms k :: rest =>
    { a with frames := .object ((k, s) :: ms) k :: rest, expecting := .commaOrBrace }

/-- Closes the innermost container. -/
def close (a : Assembly) (ending : Option Break) : Assembly :=
  match a.frames with
  | [] => a
  | .array es :: rest => { a with frames := rest }.deliver (.arr es.reverse ending)
  | .object ms _ :: rest => { a with frames := rest }.deliver (.obj ms.reverse ending)

/-- Ends all open containers at a break. -/
def unwind (b : Break) (a : Assembly) : Assembly :=
  { a.frames.foldl (fun a _ => a.close (some b)) a with expecting := .nothing }

/-- The text breaks where a value should begin. -/
def breakValue (a : Assembly) (b : Break) : Assembly := (a.deliver (.broken b)).unwind b

/-- Reads a token where a value should begin. -/
def takeValue (a : Assembly) : Token → Assembly
  | .openObject => { a with frames := .object [] (.ok "") :: a.frames, expecting := .key true }
  | .openArray => { a with frames := .array [] :: a.frames, expecting := .element true }
  | .null => a.deliver .null
  | .bool b => a.deliver (.bool b)
  | .num n => a.deliver (.num n)
  | .str s => a.deliver (.str s)
  | .flawed _ e => a.deliver (.flawed e)
  | .broken _ b => a.breakValue b
  | .closeObject | .closeArray | .comma | .colon => a.breakValue (.both .expectedValue)

/-- Reads a token where a name should stand. -/
def takeKey (a : Assembly) (t : Token) : Assembly :=
  let named (k : Except SyntaxError String) : Assembly :=
    match a.frames with
    | .object ms _ :: rest => { a with frames := .object ms k :: rest, expecting := .colon }
    | _ => a
  match t with
  | .str s => named (.ok s)
  | .flawed true e => named (.error e)
  | .broken true b => a.unwind b
  | _ => a.unwind (.both .keyNotString)

def step (a : Assembly) (t : Token) : Assembly :=
  match a.expecting, t with
  | .root, t => a.takeValue t
  | .value, t => a.takeValue t
  | .element true, .closeArray => a.close none
  | .element false, .closeArray => a.unwind ⟨.trailingComma, .expectedValue⟩
  | .element _, t => a.takeValue t
  | .commaOrBracket, .comma => { a with expecting := .element false }
  | .commaOrBracket, .closeArray => a.close none
  | .commaOrBracket, _ => a.unwind (.both .expectedCommaOrBracket)
  | .key true, .closeObject => a.close none
  | .key false, .closeObject => a.unwind ⟨.trailingComma, .keyNotString⟩
  | .key _, t => a.takeKey t
  | .colon, .colon => { a with expecting := .value }
  | .colon, _ => a.breakValue (.both .expectedColon)
  | .commaOrBrace, .comma => { a with expecting := .key false }
  | .commaOrBrace, .closeObject => a.close none
  | .commaOrBrace, _ => a.unwind (.both .expectedCommaOrBrace)
  | .nothing, _ => { a with trailing := true }

/-- The tree at the end of the text. -/
def finish (a : Assembly) : Document :=
  let a := match a.expecting with
    | .root | .value => a.breakValue (.both .endOfValue)
    | .element true | .commaOrBracket => a.unwind (.both .endOfList)
    | .element false => a.unwind (.both .endOfValue)
    | .key true | .commaOrBrace => a.unwind (.both .endOfObject)
    | .key false => a.unwind ⟨.endOfValue, .endOfObject⟩
    | .colon => a.breakValue (.both .endOfObject)
    | .nothing => a
  ⟨a.result.getD (.broken (.both .endOfValue)), a.trailing⟩

end Assembly

/-- The tree of a text. -/
def Document.ofBytes (bytes : Bytes) : Document :=
  ((Token.ofBytes bytes).foldl Assembly.step {}).finish

end SchemaCatalog
