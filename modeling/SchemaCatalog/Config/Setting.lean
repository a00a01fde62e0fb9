/-
  Settings
  ========
  **What configuration files and the environment say, before it is given a
  type.**

  Settings form a tree of tables and lists.  Sources are merged one into the
  other, table by table, and the later source counts; every value remembers
  the source it is from.  The case of a key does not matter.  A key of a
  source itself, not of a table inside it, may be a path: names with points
  between them, and indices in brackets, which count from the end if they
  are negative.  A variable of the environment that begins with `SCHEMAS__`
  gives one value; the rest of its name, with points for double underscores,
  is its path.
-/
import SchemaCatalog.Config.Datum
import SchemaCatalog.Reference
import SchemaCatalog.Text.Lowercase
import SchemaCatalog.Text.Quoted

namespace SchemaCatalog

/-- A setting that is no list and no table. -/
inductive SettingValue where
  /-- Nothing, where a value could stand. -/
  | blank
  | text (s : String)
  | integer (n : Int)
  | float (x : Floating)
  | boolean (b : Bool)
deriving DecidableEq, Repr

/-- A setting with its origin; what is made while sources are merged has none. -/
inductive Setting where
  | value (origin : Option String) (v : SettingValue)
  | list (origin : Option String) (elements : List Setting)
  | table (origin : Option String) (members : Table Setting)
deriving Repr

namespace Setting

/-! ### From files -/

mutual

/-- The settings that the data of a source give. -/
def ofDatum (origin : Option String) : Datum → Setting
  | .blank => value origin .blank
  | .text s => value origin (.text s)
  | .integer n => value origin (.integer n)
  | .float x => value origin (.float x)
  | .boolean b => value origin (.boolean b)
  | .list l => list origin (ofElements origin l)
  | .table ⟨l⟩ => table origin ⟨ofMembers origin l⟩

def ofElements (origin : Option String) : List Datum → List Setting
  | [] => []
  | v :: rest => ofDatum origin v :: ofElements origin rest

def ofMembers (origin : Option String) : List (String × Datum) → List (String × Setting)
  | [] => []
  | (k, v) :: rest => (k, ofDatum origin v) :: ofMembers origin rest

end

/-! ### Merging -/

/-- The members of a table; what is no table counts as an empty one. -/
def members : Setting → Table Setting
  | table _ t => t
  | value .. | list .. => {}

/-- The table with other members; what is no table is replaced. -/
def setMembers (t : Table Setting) : Setting → Setting
  | table origin _ => table origin t
  | value .. | list .. => table none t

mutual

/-- Sets a key of a table: a table is merged into what is there, anything else replaces it. -/
def mergeInto (target : Table Setting) (key : String) : Setting → Table Setting
  | table _ ⟨l⟩ => target.insert key (mergeMembers ((target.get? key).getD (.table none {})) l)
  | value origin v => target.insert key (.value origin v)
  | list origin l => target.insert key (.list origin l)

/-- Merges members into a setting, under their lower-case keys. -/
def mergeMembers (target : Setting) : List (String × Setting) → Setting
  | [] => target
  | (k, v) :: rest =>
    mergeMembers (target.setMembers (mergeInto target.members (lowercase k) v)) rest

end

/-! ### Paths -/

/-- A step from a setting to one inside. -/
inductive Step where
  | key (name : String)
  | index (i : Int)
deriving DecidableEq, Repr

def isNameCharacter (c : Char) : Bool := Toml.isBareKeyCharacter c || c = ' '

/-- An index, with blanks around it. -/
def index? (l : List Char) : Option Int := do
  let isBlank (c : Char) : Bool := c = ' ' || c = '\t'
  let l := ((l.dropWhile isBlank).reverse.dropWhile isBlank).reverse
  let (negative, digits) := match l with
    | '-' :: rest => (true, rest)
    | l => (false, l)
  if digits.isEmpty then none
  else
    let n : Int := Toml.ofDigits 10 (← digits.mapM Toml.decimalDigit?)
    Toml.inRange? (if negative then -n else n)

/-- The steps behind the first name of a path; `fuel` bounds the length of the text. -/
def stepsBehind? : Nat → List Char → Option (List Step)
  | _, [] => some []
  | 0, _ => none
  | fuel + 1, '.' :: rest => do
    let name := rest.takeWhile isNameCharacter
    if name.isEmpty then none
    else return .key (String.ofList name) :: (← stepsBehind? fuel (rest.dropWhile isNameCharacter))
  | fuel + 1, '[' :: rest => do
    let i ← index? (rest.takeWhile (· ≠ ']'))
    match rest.dropWhile (· ≠ ']') with
    | [] => none
    | _ :: rest => return .index i :: (← stepsBehind? fuel rest)
  | _, _ => none

/-- The steps that a key of a source stands for; what is no path is one name. -/
def steps (path : String) : List Step :=
  let l := path.toList
  let name := l.takeWhile isNameCharacter
  match stepsBehind? l.length (l.dropWhile isNameCharacter) with
  | some rest => if name.isEmpty then [.key path] else .key (String.ofList name) :: rest
  | none => [.key path]

/-- The place of an index in a list of `count` elements. -/
def placeOf (i : Int) (count : Nat) : Nat := if 0 ≤ i then i.toNat else count - i.natAbs

/-- The list with a changed element.  What is no list is replaced by one, which is as long as
    need be. -/
def changeElement (i : Int) (change : Setting → Setting) (target : Setting) : Setting :=
  let (origin, l) : Option String × List Setting := match target with
    | list origin l => (origin, l)
    | value .. | table .. => (none, [])
  let blank : Setting := .value none .blank
  let n := placeOf i l.length
  let l := l ++ List.replicate (n + 1 - l.length) blank
  .list origin (l.set n (change (l.getD n blank)))

/-- Sets a value at a path; what is missing on the way is made. -/
def setAt (v : Setting) : List Step → Setting → Setting
  | [], _ => v
  | [.key name], target => mergeMembers target [(name, v)]
  | .key name :: path, target =>
    let inner := (target.members.get? (lowercase name)).getD (.value none .blank)
    target.setMembers (target.members.insert (lowercase name) (setAt v path inner))
  | .index i :: path, target => changeElement i (setAt v path) target

/-- Merges a source into the settings of the sources before it. -/
def mergeSource (target source : Setting) : Setting :=
  source.members.entries.foldl (fun t (path, v) => setAt v (steps path) t) target

/-- The settings of several sources, of which the later count. -/
def mergeAll (sources : List Setting) : Table Setting :=
  (sources.foldl mergeSource (.table none {})).members

/-! ### From the environment -/

/-- The origin of variables. -/
def environmentOrigin : String := "the environment"

/-- A variable's text as a value: a flag, a number, or the text itself. -/
def ofVariable (text : String) : SettingValue :=
  match lowercase text with
  | "true" => .boolean true
  | "false" => .boolean false
  | _ =>
    match wholeNumber? text, Floating.ofText? text with
    | some n, _ => .integer n
    | none, some x => .float x
    | none, none => .text text
where
  /-- A whole number that fits a signed 64-bit word, with or without a sign. -/
  wholeNumber? (text : String) : Option Int := do
    let (negative, digits) := Toml.splitSign text.toList
    if digits.isEmpty then none
    else
      let n : Int := Toml.ofDigits 10 (← digits.mapM Toml.decimalDigit?)
      Toml.inRange? (if negative then -n else n)

/-- Every double underscore as a point. -/
def pointed : List Char → List Char
  | '_' :: '_' :: rest => '.' :: pointed rest
  | c :: rest => c :: pointed rest
  | [] => []

/-- The settings of the environment. -/
def ofEnvironment (environment : List (String × String)) : Setting :=
  .table none <| Table.ofList <| environment.filterMap fun (name, text) =>
    (stripPrefix? (lowercase name) "schemas__").map fun rest =>
      (String.ofList (pointed rest.toList), .value (some environmentOrigin) (ofVariable text))

end Setting

end SchemaCatalog
