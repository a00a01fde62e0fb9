/-
  Data of configuration files
  ===========================
  **What the formats of configuration files have in common.**

  Whatever the format, a file holds texts, numbers and flags in lists and
  tables, or says that something is there without a value.
-/
import SchemaCatalog.Json.Decode
import SchemaCatalog.Toml.Reader

namespace SchemaCatalog

inductive Datum where
  /-- Nothing but the fact that it is there. -/
  | blank
  | text (s : String)
  | integer (n : Int)
  | float (x : Floating)
  | boolean (b : Bool)
  | list (l : List Datum)
  | table (t : Table Datum)
deriving Repr

instance : Inhabited Datum := ⟨.blank⟩

namespace Datum

mutual

def ofToml : Toml.Value → Datum
  | .string s => text s
  | .integer n => integer n
  | .float x => float x
  | .boolean b => boolean b
  | .moment s => text s
  | .array l => list (ofTomlElements l)
  | .table ⟨l⟩ => table ⟨ofTomlMembers l⟩

def ofTomlElements : List Toml.Value → List Datum
  | [] => []
  | v :: rest => ofToml v :: ofTomlElements rest

def ofTomlMembers : List (String × Toml.Value) → List (String × Datum)
  | [] => []
  | (k, v) :: rest => (k, ofToml v) :: ofTomlMembers rest

end

mutual

def ofJson : Json → Datum
  | .null => blank
  | .bool b => boolean b
  | .num (.int n) => integer n
  | .num (.float x) => float (.finite x)
  | .str s => text s
  | .arr l => list (ofJsonElements l)
  | .obj ⟨l⟩ => table ⟨ofJsonMembers l⟩

def ofJsonElements : List Json → List Datum
  | [] => []
  | v :: rest => ofJson v :: ofJsonElements rest

def ofJsonMembers : List (String × Json) → List (String × Datum)
  | [] => []
  | (k, v) :: rest => (k, ofJson v) :: ofJsonMembers rest

end

/-- The table of members, of which the last under a name counts. -/
def ofMembers (l : List (String × Datum)) : Datum := table (Table.ofList l)

end Datum

end SchemaCatalog
