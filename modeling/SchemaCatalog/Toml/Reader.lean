/-
  Reading TOML
  ============
  **The table of a TOML document.**

  A document is read line by line.  A line with a key and a value sets the
  value in the current table; a header makes another table current.  What a
  table may still take depends on how it came to be, which is kept while the
  document is read (`Node`): a table that only occurs inside longer keys may
  still be given a header, one built by dotted keys may only grow by dotted
  keys, and a table or an array written as a value is closed.
-/
import SchemaCatalog.Toml.Scalar

namespace SchemaCatalog.Toml

/-! ### Tables in progress -/

/-- How a table came to be. -/
inductive Origin where
  /-- It has a header or is the document. -/
  | header
  /-- It occurs in the header of a table below. -/
  | implied
  /-- It occurs in a dotted key. -/
  | dotted
deriving DecidableEq, Repr

inductive Node where
  | value (v : Value)
  | table (origin : Origin) (members : Table Node)
  /-- An array of tables, latest first. -/
  | tables (latestFirst : List (Table Node))
deriving Repr

namespace Node

mutual

def toValue : Node → Value
  | value v => v
  | table _ ⟨members⟩ => .table ⟨toEntries members⟩
  | tables l => .array (toTables l).reverse

def toEntries : List (String × Node) → List (String × Value)
  | [] => []
  | (k, n) :: rest => (k, toValue n) :: toEntries rest

def toTables : List (Table Node) → List Value
  | [] => []
  | ⟨members⟩ :: rest => .table ⟨toEntries members⟩ :: toTables rest

end

end Node

abbrev Members := Table Node

/-- Changes the table that a path of keys leads to; missing tables on the way are made.  In an
    array of tables the way leads through its last table.  Through a dotted key it leads only
    through tables without a header. -/
def descend (dotted : Bool) (change : Members → Option Members) :
    List String → Members → Option Members
  | [], members => change members
  | key :: path, members => do
    match members.get? key with
    | none =>
      let inner ← descend dotted change path {}
      return members.insert key (.table (if dotted then .dotted else .implied) inner)
    | some (.value _) => none
    | some (.table origin inner) =>
      if dotted ∧ origin = .header then none
      else return members.insert key (.table origin (← descend dotted change path inner))
    | some (.tables []) => none
    | some (.tables (last :: earlier)) =>
      return members.insert key (.tables ((← descend dotted change path last) :: earlier))

/-- Sets a value under a key that is free. -/
def setNew (key : String) (v : Value) (members : Members) : Option Members :=
  if members.contains key then none else some (members.insert key (.value v))

/-- Whether a dotted path leads to a table that dotted keys have built, or to none yet. -/
def endsDotted : List String → Members → Bool
  | [], _ => true
  | key :: path, members =>
    match members.get? key with
    | none => true
    | some (.table origin inner) => if path.isEmpty then origin = .dotted else endsDotted path inner
    | some (.tables (last :: _)) => !path.isEmpty && endsDotted path last
    | some (.tables []) | some (.value _) => false

/-- Sets a value under a dotted key of a table. -/
def setValue (path : List String) (key : String) (v : Value) (members : Members) : Option Members :=
  if endsDotted path members then descend true (setNew key v) path members else none

/-- Gives a table its header. -/
def openTable (key : String) (members : Members) : Option Members :=
  match members.get? key with
  | none => some (members.insert key (.table .header {}))
  | some (.table .implied inner) => some (members.insert key (.table .header inner))
  | some _ => none

/-- Adds a table to an array of tables. -/
def openElement (key : String) (members : Members) : Option Members :=
  match members.get? key with
  | none => some (members.insert key (.tables [{}]))
  | some (.tables l) => some (members.insert key (.tables ({} :: l)))
  | some _ => none

/-! ### Keys -/

def isBareKeyCharacter (c : Char) : Bool := c.isAlphanum || c = '_' || c = '-'

def simpleKey? (l : List Char) : Option (Parsed String) :=
  match l with
  | '"' :: '"' :: '"' :: _ | '\'' :: '\'' :: '\'' :: _ => none
  | '"' :: _ | '\'' :: _ => string? l
  | l =>
    let key := l.takeWhile isBareKeyCharacter
    if key.isEmpty then none else some (String.ofList key, l.dropWhile isBareKeyCharacter)

/-- Keys with dots between them; `fuel` bounds their number. -/
def keys? : Nat → List Char → Option (Parsed (List String))
  | 0, _ => none
  | fuel + 1, l => do
    let (key, rest) ← simpleKey? (skipBlanks l)
    match skipBlanks rest with
    | '.' :: rest =>
      let (path, rest) ← keys? fuel rest
      return (key :: path, rest)
    | rest => return ([key], rest)

/-- How many arrays and tables may be nested in a value, and how many keys a dotted one has. -/
def maxNesting : Nat := 79

/-- A dotted key: the path to its table, and the last key. -/
def key? (l : List Char) : Option (Parsed (List String × String)) := do
  let (keys, rest) ← keys? (l.length + 1) l
  if maxNesting < keys.length then none
  else
    let last ← keys.getLast?
    return ((keys.dropLast, last), rest)

/-! ### Values -/

mutual

/-- A value, with `nesting` more levels allowed.  `fuel` bounds the length of the text. -/
def value? : Nat → Nat → List Char → Option (Parsed Value)
  | 0, _, _ => none
  | fuel + 1, nesting, l =>
    match l, nesting with
    | '[' :: rest, nesting + 1 => do
      let (elements, rest) ← elements? fuel nesting (skipLines rest.length rest)
      return (.array elements, rest)
    | '\x7b' :: rest, nesting + 1 => do
      let (members, rest) ← members? fuel nesting {} (skipBlanks rest)
      return (Node.toValue (.table .header members), rest)
    | '[' :: _, 0 | '\x7b' :: _, 0 => none
    | l, _ => scalar? l

/-- The elements of an array up to its end. -/
def elements? : Nat → Nat → List Char → Option (Parsed (List Value))
  | 0, _, _ => none
  | _ + 1, _, ']' :: rest => some ([], rest)
  | fuel + 1, nesting, l => do
    let (v, rest) ← value? fuel nesting l
    match skipLines rest.length rest with
    | ',' :: rest =>
      let (others, rest) ← elements? fuel nesting (skipLines rest.length rest)
      return (v :: others, rest)
    | ']' :: rest => return ([v], rest)
    | _ => none

/-- The members of a table written as a value, on one line and without a comma at the end. -/
def members? : Nat → Nat → Members → List Char → Option (Parsed Members)
  | 0, _, _, _ => none
  | fuel + 1, nesting, members, l =>
    match l, members.isEmpty with
    | '\x7d' :: rest, true => some (members, rest)
    | l, _ => do
      let ((path, key), rest) ← key? l
      let rest ← expect? '=' rest
      let (v, rest) ← value? fuel nesting (skipBlanks rest)
      let members ← setValue path key v members
      match skipBlanks rest with
      | ',' :: rest => memberAfterComma? fuel nesting members (skipBlanks rest)
      | '\x7d' :: rest => return (members, rest)
      | _ => none

/-- A comma must be followed by another member. -/
def memberAfterComma? : Nat → Nat → Members → List Char → Option (Parsed Members)
  | 0, _, _, _ => none
  | fuel + 1, nesting, members, l =>
    match l with
    | '\x7d' :: _ => none
    | l => members? fuel nesting members l

end

/-! ### Documents -/

/-- A document as far as it has been read. -/
structure Draft where
  root : Members := {}
  /-- The path to the current table. -/
  current : List String := []

/-- A header between brackets: a table, or an element of an array of tables. -/
def header? (d : Draft) (l : List Char) : Option (Draft × List Char) := do
  let (isElement, rest) := match l with
    | '[' :: rest => (true, rest)
    | l => (false, l)
  let ((path, key), rest) ← key? rest
  let rest ← expect? ']' rest
  let rest ← if isElement then expect? ']' rest else some rest
  let root ← descend false (if isElement then openElement key else openTable key) path d.root
  return (⟨root, path ++ [key]⟩, ← endOfLine? rest)

def assignment? (d : Draft) (l : List Char) : Option (Draft × List Char) := do
  let ((path, key), rest) ← key? l
  let rest ← expect? '=' rest
  let (v, rest) ← value? (2 * rest.length + 2) maxNesting (skipBlanks rest)
  let root ← descend false (setValue path key v) d.current d.root
  return ({ d with root }, ← endOfLine? rest)

/-- Reads lines to the end; `fuel` bounds their number. -/
def lines? : Nat → Draft → List Char → Option Members
  | 0, _, _ => none
  | fuel + 1, d, l =>
    match skipLines l.length l with
    | [] => some d.root
    | '[' :: rest => do
      let (d, rest) ← header? d rest
      lines? fuel d rest
    | l => do
      let (d, rest) ← assignment? d l
      lines? fuel d rest

/-- The key of a table that stands for the moment it holds as a text. -/
def momentKey : String := "$__toml_private_datetime"

mutual

/-- A value with the tables that stand for moments replaced by these, or `none` if one does not
    hold a moment. -/
def withMoments? : Value → Option Value
  | .table ⟨[(k, v)]⟩ =>
    if k = momentKey then
      match v with
      | .string s => (moment? s.toList).map .moment
      | _ => none
    else do return .table ⟨[(k, ← withMoments? v)]⟩
  | .table ⟨l⟩ => do return .table ⟨← membersWithMoments? l⟩
  | .array l => do return .array (← elementsWithMoments? l)
  | v => some v

def elementsWithMoments? : List Value → Option (List Value)
  | [] => some []
  | v :: rest => do return (← withMoments? v) :: (← elementsWithMoments? rest)

def membersWithMoments? : List (String × Value) → Option (List (String × Value))
  | [] => some []
  | (k, v) :: rest => do return (k, ← withMoments? v) :: (← membersWithMoments? rest)

end

/-- The value of a document, or `none` if the text is no TOML document. -/
def read? (bytes : Bytes) : Option Value := do
  let text ← Bytes.toString? bytes
  let l := match text.toList with
    | c :: rest => if c.toNat = 0xfeff then rest else c :: rest
    | [] => []
  let members ← lines? (l.length + 1) {} l
  withMoments? (Node.toValue (.table .header members))

end SchemaCatalog.Toml
