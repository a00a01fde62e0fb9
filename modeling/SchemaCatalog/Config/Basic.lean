/-
  Configuration
  =============
  **What a user can set, with its defaults.**

  Settings are grouped in sections when they are written; the options of
  every operation are derived from one configuration, so that the
  operations agree on prefixes and depth.
-/
import SchemaCatalog.Consistency
import SchemaCatalog.Publication
import SchemaCatalog.Merge
import SchemaCatalog.Toml.Writer
import SchemaCatalog.File.Tree

namespace SchemaCatalog

/-- The layout of JSON output. -/
inductive OutputFormat where
  | pretty
  | compact
deriving DecidableEq, Repr, Inhabited

namespace OutputFormat

def all : List OutputFormat := [pretty, compact]

def name : OutputFormat → String
  | pretty => "pretty"
  | compact => "compact"

def render : OutputFormat → OrderedJson → String
  | pretty, v => v.pretty
  | compact, v => v.compact

end OutputFormat

structure Config where
  definitionsPrefix : String := SchemaCatalog.definitionsPrefix
  outputPrefix : String := componentsPrefix
  /-- Names that a schema may leave out because the server supplies their values. -/
  serverDefinedFields : List String := ["id"]
  maxDepth : Nat := defaultMaxDepth
  allowNullableRequired : Bool := false
  stripNestedDefinitions : Bool := true
  mergeStrategy : MergeStrategy := default
  outputFormat : OutputFormat := default
  /-- A bundle file, or a directory of bundle files. -/
  bundlePath : Option String := none
  /-- How the names of bundle files in a directory end. -/
  bundleExtension : String := ".entity.json"
deriving DecidableEq, Repr, Inhabited

namespace Config

/-! ### Options -/

def resolverOptions (c : Config) : ResolverOptions := ⟨c.definitionsPrefix, c.maxDepth⟩

def consistencyOptions (c : Config) : ConsistencyOptions where
  serverDefinedFields := c.serverDefinedFields
  definitionsPrefix := c.definitionsPrefix
  maxDepth := c.maxDepth
  allowNullableRequired := c.allowNullableRequired

def publishOptions (c : Config) : PublishOptions where
  definitionsPrefix := c.definitionsPrefix
  outputPrefix := c.outputPrefix
  maxDepth := c.maxDepth
  stripNested := c.stripNestedDefinitions

def render (c : Config) (v : OrderedJson) : String := c.outputFormat.render v

/-- The path of the bundle as seen from the working directory. -/
def bundlePathFrom (c : Config) (directory : String) : Option String :=
  c.bundlePath.map (FilePath.join directory)

/-! ### Text -/

/-- The settings in their sections. -/
def sections (c : Config) : List Toml.Section := [
  ("references", [
    ("definitions_prefix", .string c.definitionsPrefix),
    ("output_prefix", .string c.outputPrefix)]),
  ("consistency", [
    ("server_defined_fields", .strings c.serverDefinedFields),
    ("max_depth", .integer c.maxDepth),
    ("allow_nullable_required", .boolean c.allowNullableRequired)]),
  ("collector", [("strip_nested_definitions", .boolean c.stripNestedDefinitions)]),
  ("merge", [("strategy", .string c.mergeStrategy.name)]),
  ("output", [("format", .string c.outputFormat.name)]),
  ("bundle",
    (c.bundlePath.map fun path => ("path", Toml.Setting.string path)).toList ++
    [("extension", .string c.bundleExtension)])]

/-- The configuration as a file, which cannot hold a number of more than 63 bits. -/
def text (c : Config) : Except FileError String :=
  if Nat.pow 2 63 ≤ c.maxDepth then .error (.other "out-of-range value for u64 type")
  else .ok (Toml.documentText c.sections)

end Config

end SchemaCatalog
