/-
  Schemas directly below a schema
  ===============================
  **The places where one schema holds another, in their fixed order.**

  The order is: `additionalItems`, `items`, `contains`,
  `additionalProperties`, the properties by name, the members of `allOf`,
  `anyOf` and `oneOf`, and `not`.  Flags hold no schema and are passed over; the
  definitions of a schema are not places below it.

  `Schema.children` reads these places and `Schema.withChildren` fills
  them; every traversal of the library is built on the two, so that no two
  traversals can disagree on what lies below a schema.
-/
import SchemaCatalog.Schema.Basic

namespace SchemaCatalog.Schema

/-! ### Reading the places -/

def childOf (segment : String) : Option (Subschema Schema) → List (String × Schema)
  | some (.schema s) => [(segment, s)]
  | some (.flag _) | none => []

/-- The schemas of a list, with the keyword and the position as segment. -/
def childrenOfList (keyword : String) (l : List (Subschema Schema)) : List (String × Schema) :=
  l.zipIdx.filterMap fun (s, i) => s.schema?.map fun s => (keyword ++ "/" ++ Nat.repr i, s)

def childrenOfTable (keyword : String) (t : Definitions) : List (String × Schema) :=
  t.entries.filterMap fun (k, s) => s.schema?.map fun s => (keyword ++ "/" ++ k, s)

def childrenOfItems : Option (Items Schema) → List (String × Schema)
  | none => []
  | some (.each s) => childOf "items" (some s)
  | some (.tuple l) => childrenOfList "items" l

/-- The schemas directly below, each with the path segment that leads to it. -/
def children (s : Schema) : List (String × Schema) :=
  childOf "additionalItems" s.additionalItems ++
  childrenOfItems s.items ++
  childOf "contains" s.contains ++
  childOf "additionalProperties" s.additionalProperties ++
  childrenOfTable "properties" s.properties ++
  childrenOfList "allOf" s.allOf ++
  childrenOfList "anyOf" s.anyOf ++
  childrenOfList "oneOf" s.oneOf ++
  childOf "not" s.not

/-- The schemas among the definitions, each with its path segment. -/
def definitionChildren (s : Schema) : List (String × Schema) :=
  childrenOfTable "definitions" s.definitions

/-! ### Filling the places

Each function puts the schemas of a list into the places of one keyword, in
order, and returns what is left of the list. -/

def fill : Subschema Schema → List Schema → Subschema Schema × List Schema
  | .schema _, s :: rest => (.schema s, rest)
  | .schema s, [] => (.schema s, [])
  | .flag b, l => (.flag b, l)

def fillOption : Option (Subschema Schema) → List Schema → Option (Subschema Schema) × List Schema
  | none, l => (none, l)
  | some s, l =>
    let (s, l) := fill s l
    (some s, l)

def fillList : List (Subschema Schema) → List Schema → List (Subschema Schema) × List Schema
  | [], l => ([], l)
  | s :: rest, l =>
    let (s, l) := fill s l
    let (rest, l) := fillList rest l
    (s :: rest, l)

def fillEntries :
    List (String × Subschema Schema) → List Schema → List (String × Subschema Schema) × List Schema
  | [], l => ([], l)
  | (k, s) :: rest, l =>
    let (s, l) := fill s l
    let (rest, l) := fillEntries rest l
    ((k, s) :: rest, l)

def fillItems : Option (Items Schema) → List Schema → Option (Items Schema) × List Schema
  | none, l => (none, l)
  | some (.each s), l =>
    let (s, l) := fill s l
    (some (.each s), l)
  | some (.tuple ss), l =>
    let (ss, l) := fillList ss l
    (some (.tuple ss), l)

/-- The schema with the schemas directly below it replaced, in order, by those of a list. -/
def withChildren (s : Schema) (l : List Schema) : Schema :=
  let (additionalItems, l) := fillOption s.additionalItems l
  let (items, l) := fillItems s.items l
  let (contains, l) := fillOption s.contains l
  let (additionalProperties, l) := fillOption s.additionalProperties l
  let (properties, l) := fillEntries s.properties.entries l
  let (allOf, l) := fillList s.allOf l
  let (anyOf, l) := fillList s.anyOf l
  let (oneOf, l) := fillList s.oneOf l
  let (not, _) := fillOption s.not l
  { s with
    additionalItems, items, contains, additionalProperties, properties := ⟨properties⟩, allOf
    anyOf, oneOf, not }

/-- The schema with the schemas among its definitions replaced, in order. -/
def withDefinitionChildren (s : Schema) (l : List Schema) : Schema :=
  { s with definitions := ⟨(fillEntries s.definitions.entries l).1⟩ }

end SchemaCatalog.Schema
