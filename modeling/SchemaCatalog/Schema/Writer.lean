/-
  Written schemas
  ===============
  **A schema document as JSON.**

  The keywords with a field of their own come first, in a fixed order, and
  the others follow in the order of their names.  An absent keyword and an
  empty collection are left out, except where the emptiness is the form
  itself: a list of no type names, or of no items.
-/
import SchemaCatalog.Schema.Basic
import SchemaCatalog.Json.Writer

namespace SchemaCatalog

def TypeNames.ordered : TypeNames → OrderedJson
  | single name => .str name
  | union names => .arr (names.map .str)

namespace Schema

mutual

/-- The document, with its keywords in the order in which they are written. -/
def ordered : Schema → OrderedJson
  | ⟨ref, type, ⟨properties⟩, items, additionalItems, contains, additionalProperties, allOf,
      anyOf, oneOf, not, ⟨definitions⟩, required, examples, extra⟩ =>
    .obj <|
      (ref.map fun r => ("$ref", OrderedJson.str r)).toList ++
      (type.map fun t => ("type", t.ordered)).toList ++
      orderedTable "properties" properties ++
      orderedItems items ++
      orderedOption "additionalItems" additionalItems ++
      orderedOption "contains" contains ++
      orderedOption "additionalProperties" additionalProperties ++
      orderedAlternatives "allOf" allOf ++
      orderedAlternatives "anyOf" anyOf ++
      orderedAlternatives "oneOf" oneOf ++
      orderedOption "not" not ++
      orderedTable "definitions" definitions ++
      (if required.isEmpty then [] else [("required", .arr (required.map .str))]) ++
      (if examples.isEmpty then [] else [("examples", .arr (examples.map Json.ordered))]) ++
      extra.entries.map fun e => (e.1, e.2.ordered)

def orderedSub : Subschema Schema → OrderedJson
  | .flag b => .bool b
  | .schema s => ordered s

def orderedOption (keyword : String) : Option (Subschema Schema) → List (String × OrderedJson)
  | none => []
  | some s => [(keyword, orderedSub s)]

def orderedList : List (Subschema Schema) → List OrderedJson
  | [] => []
  | s :: rest => orderedSub s :: orderedList rest

def orderedAlternatives (keyword : String) :
    List (Subschema Schema) → List (String × OrderedJson)
  | [] => []
  | s :: rest => [(keyword, .arr (orderedSub s :: orderedList rest))]

def orderedItems : Option (Items Schema) → List (String × OrderedJson)
  | none => []
  | some (.each s) => [("items", orderedSub s)]
  | some (.tuple l) => [("items", .arr (orderedList l))]

def orderedEntries : List (String × Subschema Schema) → List (String × OrderedJson)
  | [] => []
  | (k, s) :: rest => (k, orderedSub s) :: orderedEntries rest

def orderedTable (keyword : String) :
    List (String × Subschema Schema) → List (String × OrderedJson)
  | [] => []
  | (k, s) :: rest => [(keyword, .obj ((k, orderedSub s) :: orderedEntries rest))]

end

/-- The document as a JSON value. -/
def toJson (s : Schema) : Json := s.ordered.toJson

/-- The document as a compact text. -/
def text (s : Schema) : String := s.ordered.compact

/-- The lines of the document as a pretty text. -/
def lines (s : Schema) : List String := s.ordered.lines

end Schema

def Subschema.toJson (s : Subschema Schema) : Json := (Schema.orderedSub s).toJson

end SchemaCatalog
