/-
  Formats of configuration files
  ==============================
  **The formats that a configuration file may have, by the ending of its
  name.**

  Whatever its format, a file must hold a table.
-/
import SchemaCatalog.Ini.Reader
import SchemaCatalog.Json5.Reader
import SchemaCatalog.Ron.Reader
import SchemaCatalog.Text.Quoted
import SchemaCatalog.Yaml.Reader

namespace SchemaCatalog

inductive FileFormat where
  | toml
  | json
  | yaml
  | ini
  | ron
  | json5
deriving DecidableEq, Repr

namespace FileFormat

def all : List FileFormat := [toml, json, yaml, ini, ron, json5]

/-- How the names of files of a format end, behind a point. -/
def extensions : FileFormat → List String
  | toml => ["toml"]
  | json => ["json"]
  | yaml => ["yaml", "yml"]
  | ini => ["ini"]
  | ron => ["ron"]
  | json5 => ["json5"]

def ofExtension? (extension : String) : Option FileFormat :=
  all.find? fun f => extension ∈ f.extensions

/-- The data of a file, or what is wrong with it. -/
def read (text : String) : FileFormat → Except String Datum
  | toml =>
    (Datum.ofToml <$> Toml.read? (Bytes.ofString text)).elim (.error "TOML parse error") .ok
  | json => (Datum.ofJson <$> Json.ofBytes (Bytes.ofString text)).mapError ReadError.message
  | yaml => Yaml.read text
  | ini => Ini.read text
  | ron => Ron.read text
  | json5 => (Json5.read? text).elim (.error "JSON5 parse error") .ok

end FileFormat

/-- A whole number of more than 63 bits is named after its size. -/
def Datum.integerName (n : Int) : String :=
  if (Nat.pow 2 63 : Int) ≤ n then "64-bit unsigned integer" else "64-bit integer"

/-- Data as they are named where a table is missing. -/
def Datum.foundText : Datum → String
  | blank => "unit value"
  | text s => "string " ++ Text.quote s
  | integer n => Datum.integerName n ++ " \x60" ++ integerText n ++ "\x60"
  | float x => "floating point \x60" ++ x.text ++ "\x60"
  | boolean b => "boolean \x60" ++ (if b then "true" else "false") ++ "\x60"
  | list _ => "sequence"
  | table _ => "map"

end SchemaCatalog
