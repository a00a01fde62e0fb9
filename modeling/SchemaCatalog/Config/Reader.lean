/-
  Reading a configuration
  =======================
  **A configuration from the settings of files and environment.**

  Files are looked for at fixed places and at a place given by the user, and
  then the environment is added.  A file is found by its name or by its name
  without the ending of its format.  Settings are converted to the type that is
  wanted where that makes sense: a number to a text, a text to a number or a
  flag.  A value that cannot be converted is reported with its key and its
  source.  Keys that nothing asks for are ignored, and what nobody sets has
  its default.
-/
import SchemaCatalog.Config.Basic
import SchemaCatalog.Config.FileFormat
import SchemaCatalog.Config.Setting

namespace SchemaCatalog

/-- Where a command runs. -/
structure Surroundings where
  /-- The working directory. -/
  directory : String
  /-- The directory of the user's configuration files, if there is one. -/
  userDirectory : Option String := none
  environment : List (String × String) := []

inductive ConfigError where
  | missingFile (name : String)
  | unknownFormat (path : String)
  /-- A file that is no text. -/
  | noText
  | unreadable (e : FileError)
  /-- A file that is not written as its format wants it, or holds no table. -/
  | malformedFile (reason : String)
  /-- A value that cannot be converted. -/
  | notConvertible (found expected key : String) (origin : Option String)
  /-- A value that has the wrong form altogether. -/
  | wrongForm (found expected : String)
  | unknownVariant (choice name : String)
  /-- What is no name at all where one of a choice is wanted. -/
  | noVariant (choice : String)
deriving DecidableEq, Repr

def ConfigError.message : ConfigError → String
  | missingFile name => "configuration file \"" ++ name ++ "\" not found"
  | unknownFormat path => "configuration file \"" ++ path ++ "\" is not of a registered file format"
  | noText => "stream did not contain valid UTF-8"
  | unreadable e => e.message
  | malformedFile reason => reason
  | notConvertible found expected key origin =>
    "invalid type: " ++ found ++ ", expected " ++ expected ++ " for key `" ++ key ++ "`" ++
      (origin.map (" in " ++ ·)).getD ""
  | wrongForm found expected => "invalid type: " ++ found ++ ", expected " ++ expected
  | unknownVariant choice name =>
    "enum " ++ choice ++ " does not have variant constructor " ++ name
  | noVariant choice =>
    "value of enum " ++ choice ++
      " should be represented by either string or table with exactly one key"

namespace Setting

abbrev Conversion := Except ConfigError

/-! ### Conversions

`key` is the path to the setting, for the error. -/

def origin? : Setting → Option String
  | value origin _ | list origin _ | table origin _ => origin

/-- A value as it is named in errors; `integerName` is what a whole number is called. -/
def SettingValue.foundText (integerName : String) : SettingValue → String
  | .blank => "unit value"
  | .text s => "string " ++ Text.quote s
  | .integer n => integerName ++ " `" ++ integerText n ++ "`"
  | .float (.finite x) =>
    "floating point `" ++ x.textIn { NumberLayout.positional with wholeSuffix := ".0" } ++ "`"
  | .float x => "floating point `" ++ x.text ++ "`"
  | .boolean b => "boolean `" ++ (if b then "true" else "false") ++ "`"

def foundText (integerName : String) : Setting → String
  | value _ v => SettingValue.foundText integerName v
  | list .. => "sequence"
  | table .. => "map"

def reject {α : Type} (s : Setting) (found expected key : String) : Conversion α :=
  .error (.notConvertible found expected key s.origin?)

def toText (key : String) (s : Setting) : Conversion String :=
  match s with
  | value _ (.text s) => .ok s
  | value _ (.integer n) => .ok (integerText n)
  | value _ (.float x) => .ok x.text
  | value _ (.boolean b) => .ok (if b then "true" else "false")
  | s => s.reject (s.foundText "integer") "a string" key

/-- A text, or none where there is no value. -/
def toOptionalText (key : String) (s : Setting) : Conversion (Option String) :=
  match s with
  | value _ .blank => .ok none
  | s => some <$> s.toText key

def toFlag (key : String) (s : Setting) : Conversion Bool :=
  match s with
  | value _ (.boolean b) => .ok b
  | value _ (.integer n) => .ok (n ≠ 0)
  | value _ (.float (.finite x)) => .ok (!x.isZero)
  | value _ (.float _) => .ok true
  | value _ (.text text) =>
    let text := lowercase text
    if text ∈ ["1", "true", "on", "yes"] then .ok true
    else if text ∈ ["0", "false", "off", "no"] then .ok false
    else s.reject ("string " ++ Text.quote text) "a boolean" key
  | s => s.reject (s.foundText "integer") "a boolean" key

/-- A text of digits, perhaps after a plus sign, as a 64-bit number. -/
def countOfText? (text : String) : Option Nat := do
  let digits := match text.toList with
    | '+' :: rest => rest
    | l => l
  if digits.isEmpty then none
  else
    let n := Toml.ofDigits 10 (← digits.mapM Toml.decimalDigit?)
    if n ≤ wordMax then some n else none

/-- A 64-bit number; a number with a fraction is rounded. -/
def toCount (key : String) (s : Setting) : Conversion Nat :=
  match s with
  | value _ (.integer (.ofNat n)) => .ok n
  | value _ (.integer n) =>
    s.reject ("64-bit integer `" ++ integerText n ++ "`")
      "an unsigned 64 bit or less integer" key
  | value _ (.boolean b) => .ok (if b then 1 else 0)
  | value _ (.float x) =>
    match x, x.round? with
    | _, some n => .ok (min n.toNat wordMax)
    | .infinite false, none => .ok wordMax
    | _, none => .ok 0
  | value _ (.text text) =>
    if lowercase text ∈ ["true", "on", "yes"] then .ok 1
    else if lowercase text ∈ ["false", "off", "no"] then .ok 0
    else
      match countOfText? text with
      | some n => .ok n
      | none => s.reject ("string " ++ Text.quote text) "an integer" key
  | s => s.reject (s.foundText "integer") "an integer" key

def toTexts (key : String) (s : Setting) : Conversion (List String) :=
  match s with
  | list _ l => l.zipIdx.mapM fun (s, i) => s.toText (key ++ "[" ++ Nat.repr i ++ "]")
  | s => .error (.wrongForm (s.foundText "integer") "a sequence")

/-- One of a choice of names, in any case. -/
def toChoice {α : Type} (choice : String) (named : List (String × α)) (s : Setting) :
    Conversion α :=
  let known (name : String) : Conversion α :=
    match named.find? fun (n, _) => n = lowercase name with
    | some (_, v) => .ok v
    | none => .error (.unknownVariant choice name)
  match s with
  | value _ (.text name) => known name
  | table _ ⟨[(name, _)]⟩ => known name
  | _ => .error (.noVariant choice)

/-! ### Sections -/

/-- The setting of a section under a key, with its path.  A section given as a list has its
    settings in order. -/
def field? (sectionName : String) (s : Setting) (index : Nat) (name : String) :
    Option (String × Setting) :=
  match s with
  | table _ t => (t.get? name).map (sectionName ++ "." ++ name, ·)
  | list _ l => l[index]?.map (sectionName ++ "[" ++ Nat.repr index ++ "]", ·)
  | value .. => none

/-- A setting of a section, or the default. -/
def get {α : Type} (sectionName : String) (s : Setting) (index : Nat) (name : String)
    (convert : String → Setting → Conversion α) (default : α) : Conversion α :=
  match field? sectionName s index name with
  | some (key, v) => convert key v
  | none => .ok default

/-- The section of a name; one that is missing is empty. -/
def sectionOf (root : Table Setting) (name recordName : String) : Conversion Setting :=
  match root.get? name with
  | none => .ok (.table none {})
  | some (value origin v) =>
    .error (.wrongForm ((value origin v).foundText "integer") ("struct " ++ recordName))
  | some s => .ok s

end Setting

namespace Config

open Setting

/-- The configuration that settings describe. -/
def ofSettings (root : Table Setting) : Conversion Config := do
  let c : Config := {}
  let s ← sectionOf root "references" "ReferencesConfig"
  let definitionsPrefix ← s.get "references" 0 "definitions_prefix" toText c.definitionsPrefix
  let outputPrefix ← s.get "references" 1 "output_prefix" toText c.outputPrefix
  let s ← sectionOf root "consistency" "ConsistencyConfig"
  let serverDefinedFields ←
    s.get "consistency" 0 "server_defined_fields" toTexts c.serverDefinedFields
  let maxDepth ← s.get "consistency" 1 "max_depth" toCount c.maxDepth
  let allowNullableRequired ←
    s.get "consistency" 2 "allow_nullable_required" toFlag c.allowNullableRequired
  let s ← sectionOf root "collector" "CollectorConfig"
  let stripNestedDefinitions ←
    s.get "collector" 0 "strip_nested_definitions" toFlag c.stripNestedDefinitions
  let s ← sectionOf root "merge" "MergeConfig"
  let strategies := MergeStrategy.all.map fun m => (m.name, m)
  let mergeStrategy ←
    s.get "merge" 0 "strategy" (fun _ => toChoice "MergeStrategy" strategies) c.mergeStrategy
  let s ← sectionOf root "output" "OutputConfig"
  let formats := OutputFormat.all.map fun f => (f.name, f)
  let outputFormat ←
    s.get "output" 0 "format" (fun _ => toChoice "OutputFormat" formats) c.outputFormat
  let s ← sectionOf root "bundle" "BundleConfig"
  let bundlePath ← s.get "bundle" 0 "path" toOptionalText c.bundlePath
  let bundleExtension ← s.get "bundle" 1 "extension" toText c.bundleExtension
  return {
    definitionsPrefix, outputPrefix, serverDefinedFields, maxDepth, allowNullableRequired,
    stripNestedDefinitions, mergeStrategy, outputFormat, bundlePath, bundleExtension }

/-! ### Sources -/

/-- The places where a configuration file may be, the later counting. -/
def defaultFiles : List String := ["schemas.toml", ".schemas.toml", "config/schemas.toml"]

/-- The part of a file's name behind its last point, if anything stands before that. -/
def extension (path : String) : String :=
  match ((FilePath.name path).toList.reverse.splitOn '.') with
  | last :: _ :: _ =>
    if last.length + 1 < (FilePath.name path).length then String.ofList last.reverse else ""
  | _ => ""

/-- A path with the endings of all formats. -/
def extended (path : String) : List (String × FileFormat) :=
  if FilePath.name path = ".." then []
  else FileFormat.all.flatMap fun f => f.extensions.map fun e => (path ++ "." ++ e, f)

/-- A path as it is named in errors: as seen from the directory, without empty components and
    dots. -/
def originOf (directory path : String) : String :=
  let relative := (stripPrefix? path (directory ++ "/")).getD path
  if FilePath.isAbsolute relative then relative
  else FileTree.keyOf ((FilePath.split relative).filter fun c => c ≠ "" ∧ c ≠ ".")

section

variable {m : Type → Type} [Monad m] (files : FileAccess m) (around : Surroundings)

/-- The file that a name stands for: itself, or with the ending of a format. -/
def findFile (name : String) : m (Except ConfigError (String × FileFormat)) := do
  let path := FilePath.join around.directory name
  if ← files.isFile path then
    match FileFormat.ofExtension? (extension name) with
    | some f => return .ok (path, f)
    | none => return .error (.unknownFormat path)
  else
    match ← (extended (FilePath.trimmed path)).filterM fun (path, _) => files.isFile path with
    | found :: _ => return .ok found
    | [] => return .error (.missingFile name)

/-- A file that was read. -/
structure SourceFile where
  origin : String
  format : FileFormat
  text : String

/-- Reads the file that a name stands for. -/
def openFile (name : String) : m (Except ConfigError SourceFile) := do
  match ← findFile files around name with
  | .error e => return .error e
  | .ok (path, format) =>
    match ← files.read path with
    | .error e => return .error (.unreadable e)
    | .ok bytes =>
      match Bytes.toString? bytes with
      | none => return .error .noText
      | some text => return .ok { origin := originOf around.directory path, format, text }

/-- The settings that a file holds. -/
def SourceFile.settings (f : SourceFile) : Except ConfigError Setting :=
  let located (reason : String) : String := reason ++ " in " ++ f.origin
  match f.format.read f.text with
  | .ok (.table t) => .ok (.ofDatum (some f.origin) (.table t))
  | .ok v =>
    let reason := "invalid type: " ++ v.foundText ++ ", expected a map"
    .error (.malformedFile (located (located reason)))
  | .error reason =>
    .error (.malformedFile (if f.format = .toml then reason else located reason))

/-- The settings of a file. -/
def fileSettings (name : String) : m (Except ConfigError Setting) := do
  return (← openFile files around name).bind SourceFile.settings

/-- The settings of a file that need not be there. -/
def optionalSettings (name : String) : m (Except ConfigError Setting) := do
  match ← openFile files around name with
  | .error _ => return .ok (.table none {})
  | .ok f => return f.settings

/-- The settings of the user's file, which must be there under its own name. -/
def userSettings (path : String) : m (Except ConfigError Setting) := do
  if ← files.isPresent path then optionalSettings files around path
  else return .ok (.table none {})

/-- The settings of files in order, until one fails. -/
def allSettings : List (m (Except ConfigError Setting)) → m (Except ConfigError (List Setting))
  | [] => return .ok []
  | first :: rest => do
    match ← first with
    | .error e => return .error e
    | .ok s =>
      match ← allSettings rest with
      | .error e => return .error e
      | .ok l => return .ok (s :: l)

/-- The configuration of a command; `path` is a file that the user asks for. -/
def load (path : Option String) : m (Except ConfigError Config) := do
  let userFile := around.userDirectory.map fun d => d ++ "/schemas/schemas.toml"
  let sources :=
    defaultFiles.map (optionalSettings files around) ++
    (userFile.map (userSettings files around)).toList ++
    (path.map (fileSettings files around)).toList
  match ← allSettings sources with
  | .error e => return .error e
  | .ok l => return ofSettings (Setting.mergeAll (l ++ [.ofEnvironment around.environment]))

end

end Config

end SchemaCatalog
