/-
  Assertions
  ==========
  **What a keyword says about a value without looking into it by a schema.**

  `Json.broken keyword argument v` lists what `v` violates of one keyword.
  A keyword says nothing about values of a type it is not made for, and
  other keywords say nothing at all.
-/
import SchemaCatalog.Json.Writer
import SchemaCatalog.Validation.Comparison
import SchemaCatalog.Validation.Format

namespace SchemaCatalog.Json

/-- The text of a bound that is a count. -/
def countText (n : Nat) (one many : String) : String :=
  Nat.repr n ++ " " ++ (if n = 1 then one else many)

/-- The message for a value of none of several types. -/
def typesMessage (v : Json) (names : List String) : String :=
  v.compact ++ " is not of types " ++
    ", ".intercalate ((sortedNames names).map fun name => "\"" ++ name ++ "\"")

def typeMessage (v : Json) (name : String) : String :=
  v.compact ++ " is not of type \"" ++ name ++ "\""

def formatMessage (v : Json) (format : String) : String :=
  v.compact ++ " is not a \"" ++ format ++ "\""

/-- A number as a count of things. -/
def count : Number → Nat
  | .int n => n.toNat
  | .float _ => 0

/-- The messages for the names of required members that are missing. -/
def missingNames (names : List String) (members : Table Json) : List String :=
  (names.filter fun name => !members.contains name).map fun name =>
    (str name).compact ++ " is a required property"

/-- What a value violates of a keyword with its argument. -/
def broken (keyword : String) (argument v : Json) : List String :=
  let demand (holds : Bool) (message : String) : List String := if holds then [] else [message]
  match keyword, argument, v with
  | "type", str name, v => demand (v.hasType name) (typeMessage v name)
  | "type", arr names, v =>
    let named := (arr names).strings
    demand (named.any v.hasType) <| match names, named with
      | [_], [name] => typeMessage v name
      | _, _ => typesMessage v named
  | "enum", arr options, v =>
    demand (options.any v.agrees) (v.compact ++ " is not one of " ++ argument.compact)
  | "const", c, v => demand (isConstant c v) (c.compact ++ " was expected")
  | "minimum", num limit, num n =>
    demand (limit.toRat ≤ n.toRat)
      (v.compact ++ " is less than the minimum of " ++ limit.text)
  | "maximum", num limit, num n =>
    demand (n.toRat ≤ limit.toRat)
      (v.compact ++ " is greater than the maximum of " ++ limit.text)
  | "exclusiveMinimum", num limit, num n =>
    demand (limit.toRat < n.toRat)
      (v.compact ++ " is less than or equal to the minimum of " ++ limit.text)
  | "exclusiveMaximum", num limit, num n =>
    demand (n.toRat < limit.toRat)
      (v.compact ++ " is greater than or equal to the maximum of " ++ limit.text)
  | "multipleOf", num divisor, num n =>
    let divisor := divisor.toBinary64
    demand (n.toBinary64.isMultiple divisor)
      (v.compact ++ " is not a multiple of " ++ divisor.textIn .positional)
  | "minLength", num limit, str s =>
    let limit := count limit
    demand (limit ≤ s.length)
      (v.compact ++ " is shorter than " ++ countText limit "character" "characters")
  | "maxLength", num limit, str s =>
    let limit := count limit
    demand (s.length ≤ limit)
      (v.compact ++ " is longer than " ++ countText limit "character" "characters")
  | "minItems", num limit, arr l =>
    let limit := count limit
    demand (limit ≤ l.length) (v.compact ++ " has less than " ++ countText limit "item" "items")
  | "maxItems", num limit, arr l =>
    let limit := count limit
    demand (l.length ≤ limit) (v.compact ++ " has more than " ++ countText limit "item" "items")
  | "minProperties", num limit, obj members =>
    let limit := count limit
    demand (limit ≤ members.size)
      (v.compact ++ " has less than " ++ countText limit "property" "properties")
  | "maxProperties", num limit, obj members =>
    let limit := count limit
    demand (members.size ≤ limit)
      (v.compact ++ " has more than " ++ countText limit "property" "properties")
  | "uniqueItems", bool true, arr l => demand (distinct l) (v.compact ++ " has non-unique elements")
  | "required", names, obj members => missingNames names.strings members
  | "format", str format, str s =>
    demand ((Format.holds? format s).getD true) (formatMessage v format)
  | "pattern", str pattern, str s =>
    demand (((Pattern.readPlain pattern).map (·.occursIn s)).getD true)
      (v.compact ++ " does not match \"" ++ pattern ++ "\"")
  | _, _, _ => []

end SchemaCatalog.Json
