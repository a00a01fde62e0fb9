/-
  Evaluation
  ==========
  **What is wrong with an instance by a schema document.**

  The keywords of a schema are evaluated each on its own: an assertion looks
  at the instance alone, an applicator evaluates schemas inside the schema
  on the instance or on what is in it.  A reference hides the keywords
  beside it.  What it leads to must be a schema without faults; otherwise
  the fault is what is wrong with every instance.

  Every step of an evaluation goes deeper into the instance or to another
  schema for the same instance.  If no schema comes back for the same
  instance, `SchemaDocument.steps` steps are enough; if one does, the
  evaluation would not end, and is cut off.
-/
import SchemaCatalog.Text.Base64
import SchemaCatalog.Validation.Fault

namespace SchemaCatalog.Json

mutual

/-- The number of values in a value, itself included. -/
def nodeCount : Json → Nat
  | arr l => nodeCountOfElements l + 1
  | obj ⟨l⟩ => nodeCountOfMembers l + 1
  | null | bool _ | num _ | str _ => 1

def nodeCountOfElements : List Json → Nat
  | [] => 0
  | v :: rest => nodeCount v + nodeCountOfElements rest

def nodeCountOfMembers : List (String × Json) → Nat
  | [] => 0
  | (_, v) :: rest => nodeCount v + nodeCountOfMembers rest

end

def falseMessage (v : Json) : String := "False schema does not allow " ++ v.compact

/-- What is wrong at one place of the instance. -/
def failure (place : Pointer) (message : String) : FieldError := ⟨place.text, message⟩

section

/-! ### Applicators

`check schema at value` evaluates a schema at a place of the instance. -/

variable (check : Json → Pointer → Json → List FieldError) (place : Pointer)

def checkMember (schema : Json) (name : String) (v : Json) : List FieldError :=
  check schema (place ++ [name]) v

/-- Evaluates one schema on every element, the first of which has the position `start`. -/
def checkEach (schema : Json) (start : Nat) (l : List Json) : List FieldError :=
  (l.zipIdx start).flatMap fun (v, i) => check schema (place ++ [Nat.repr i]) v

/-- Evaluates schemas on the elements at their positions. -/
def checkTuple (schemas l : List Json) : List FieldError :=
  ((schemas.zip l).zipIdx).flatMap fun ((schema, v), i) => check schema (place ++ [Nat.repr i]) v

/-- Whether a schema accepts a value here. -/
def accepts (schema v : Json) : Bool := (check schema place v).isEmpty

/-- Evaluates the declared schemas on the members that an object has. -/
def checkDeclared (declared members : Table Json) : List FieldError :=
  declared.entries.flatMap fun (name, schema) =>
    match members.get? name with
    | some v => checkMember check place schema name v
    | none => []

/-- The schemas of a table of patterns whose patterns a name matches. -/
def matching (patterns : Table Json) (name : String) : List Json :=
  patterns.entries.filterMap fun (pattern, schema) =>
    if ((Pattern.read pattern).map (·.occursIn name)).getD false then some schema else none

/-- Evaluates the schemas on the members whose names match their patterns. -/
def checkPatterns (patterns members : Table Json) : List FieldError :=
  members.entries.flatMap fun (name, v) =>
    (matching patterns name).flatMap fun schema => checkMember check place schema name v

/-- The schemas for a member that is declared or has a name that a pattern matches. -/
def coveringSchemas (declared patterns : Table Json) (name : String) : List Json :=
  (declared.get? name).toList ++ matching patterns name

/-- Evaluates the members by the schemas that cover them, and `additional` on those that none
    covers. -/
def checkMembers (declared patterns : Table Json)
    (additional : String → Json → List FieldError) (members : Table Json) : List FieldError :=
  members.entries.flatMap fun (name, v) =>
    match coveringSchemas declared patterns name with
    | [] => additional name v
    | schemas => schemas.flatMap fun schema => checkMember check place schema name v

def unexpectedMessage (names : List String) : String :=
  "Additional properties are not allowed (" ++
    ", ".intercalate (names.map fun name => "'" ++ name ++ "'") ++
    (if names.length = 1 then " was unexpected)" else " were unexpected)")

def extraItemsMessage (l : List Json) : String :=
  "Additional items are not allowed (" ++ ", ".intercalate (l.map compact) ++
    (if l.length = 1 then " was unexpected)" else " were unexpected)")

/-- No members but the covered ones.  Without any keyword that covers members there may be
    none. -/
def checkClosed (declared? patterns? : Option (Table Json)) (members : Table Json) :
    List FieldError :=
  match declared?, patterns?, members.values with
  | none, none, [] => []
  | none, none, first :: _ => [failure place (falseMessage first)]
  | _, _, _ =>
    let declared := declared?.getD {}
    let patterns := patterns?.getD {}
    let extra := members.keys.filter fun name => (coveringSchemas declared patterns name).isEmpty
    checkMembers check place declared patterns (fun _ _ => []) members ++
      (if extra.isEmpty then [] else [failure place (unexpectedMessage extra)])

def checkAny (schemas : List Json) (v : Json) : List FieldError :=
  if schemas.any fun schema => accepts check place schema v then []
  else
    [failure place (v.compact ++
      " is not valid under any of the schemas listed in the 'anyOf' keyword")]

def checkOne (schemas : List Json) (v : Json) : List FieldError :=
  match schemas.countP fun schema => accepts check place schema v with
  | 0 =>
    [failure place (v.compact ++
      " is not valid under any of the schemas listed in the 'oneOf' keyword")]
  | 1 => []
  | _ + 2 =>
    [failure place (v.compact ++
      " is valid under more than one of the schemas listed in the 'oneOf' keyword")]

/-- What a member of an object calls for: other members, or a schema for the object. -/
def checkDependency (members : Table Json) : Json → List FieldError
  | arr names => (missingNames (arr names).strings members).map (failure place)
  | schema => check schema place (obj members)

/-- Evaluates a schema on the names of an object; what is wrong with a name is wrong with the
    object. -/
def checkNames (schema : Json) (members : Table Json) : List FieldError :=
  match schema with
  | bool false => if members.isEmpty then [] else [failure place (falseMessage (obj members))]
  | obj _ =>
    members.keys.flatMap fun name =>
      (check schema place (str name)).map fun e => { e with field := place.text }
  | _ => []

/-- The schemas in a table that a keyword may have. -/
def tableAt (siblings : Table Json) (keyword : String) : Option (Table Json) :=
  match siblings.get? keyword with
  | some (obj table) => some table
  | _ => none

/-- Evaluates a keyword that has schemas in its argument.  `siblings` are the keywords of the
    same schema. -/
def checkApplicator (siblings : Table Json) (keyword : String) (argument v : Json) :
    List FieldError :=
  match keyword, argument, v with
  | "properties", obj declared, obj members =>
    if coversMembers siblings then [] else checkDeclared check place declared members
  | "patternProperties", obj patterns, obj members =>
    if coversMembers siblings then [] else checkPatterns check place patterns members
  | "additionalProperties", bool false, obj members =>
    checkClosed check place (tableAt siblings "properties") (tableAt siblings "patternProperties")
      members
  | "additionalProperties", obj schema, obj members =>
    let declared := (tableAt siblings "properties").getD {}
    let patterns := (tableAt siblings "patternProperties").getD {}
    checkMembers check place declared patterns (checkMember check place (obj schema)) members
  | "items", arr schemas, arr l => checkTuple check place schemas l
  | "items", bool false, arr l => checkEach check place (bool false) 0 l
  | "items", obj schema, arr l => checkEach check place (obj schema) 0 l
  | "additionalItems", schema, v =>
    match siblings.get? "items", schema, v with
    -- then nothing is left that could have elements
    | some (bool false), _, v => [failure place (falseMessage v)]
    | some (arr schemas), bool false, arr l =>
      let extra := l.drop schemas.length
      if extra.isEmpty then [] else [failure place (extraItemsMessage extra)]
    | some (arr schemas), obj schema, arr l =>
      checkEach check place (obj schema) schemas.length (l.drop schemas.length)
    | _, _, _ => []
  | "contains", schema, arr l =>
    if l.any fun v => accepts check place schema v then []
    else [failure place ("None of " ++ v.compact ++ " are valid under the given schema")]
  | "allOf", arr schemas, v => schemas.flatMap fun schema => check schema place v
  | "anyOf", arr schemas, v => checkAny check place schemas v
  | "oneOf", arr schemas, v => checkOne check place schemas v
  | "not", schema, v =>
    if accepts check place schema v then
      [failure place (schema.compact ++ " is not allowed for " ++ v.compact)]
    else []
  | "if", schema, v =>
    let branch := if accepts check place schema v then "then" else "else"
    match siblings.get? branch with
    | some schema => check schema place v
    | none => []
  | "dependencies", obj table, obj members =>
    table.entries.flatMap fun (name, dependency) =>
      if members.contains name then checkDependency check place members dependency else []
  | "propertyNames", schema, obj members => checkNames check place schema members
  | _, _, _ => []

end

/-! ### Contents -/

def encodingMessage (v : Json) (encoding : String) : String :=
  v.compact ++ " is not compliant with \"" ++ encoding ++ "\" content encoding"

/-- What is wrong with a text as one in a medium, of which only JSON is known. -/
def checkMedium (place : Pointer) (v : Json) (content : Bytes) : List FieldError :=
  match Json.ofBytes content with
  | .ok _ => []
  | .error _ =>
    [failure place (v.compact ++ " is not compliant with \"application/json\" media type")]

/-- Checks what a text contains.  An encoded text must spell a text again, and of that is said
    what is wrong with the medium. -/
def checkContent (place : Pointer) (siblings : Table Json) (keyword : String) (argument v : Json) :
    List FieldError :=
  match keyword, argument, v with
  | "contentMediaType", str "application/json", str s =>
    match siblings.get? "contentEncoding" with
    | none => checkMedium place v (Bytes.ofString s)
    | some (str "base64") =>
      match Base64.decode? s.toList with
      | none => [failure place (encodingMessage v "base64")]
      | some content =>
        match Bytes.toText content with
        | .ok _ => checkMedium place v content
        | .error f => [placeless f.message]
    | some _ => []
  | "contentEncoding", str "base64", str s =>
    if siblings.contains "contentMediaType" ∨ (Base64.decode? s.toList).isSome then []
    else [failure place (encodingMessage v "base64")]
  | _, _, _ => []

/-! ### Schemas -/

/-- Evaluates a schema of a document on a value, at most `steps` steps deep. -/
def checkSteps (d : SchemaDocument) : Nat → Scope → Json → Pointer → Json → List FieldError
  | 0, _, _, _, _ => []
  | steps + 1, scope, schema, place, v =>
    match schema with
    | bool true => []
    | bool false => [failure place (falseMessage v)]
    | obj keywords =>
      let scope := (schema.id?.map scope.enter).elim scope fun entered =>
        match entered with
        | .ok inner => inner
        | .error _ => scope
      match keywords.get? "$ref" with
      | some (str reference) =>
        match (scope.urlOf reference).mapError .noUrl >>= d.resolve with
        | .ok (scope, target) =>
          match target.fault? scope [] with
          | some fault => [fault]
          | none => checkSteps d steps scope target place v
        | .error e => [placeless e.message]
      | _ =>
        keywords.entries.flatMap fun (keyword, argument) =>
          (broken keyword argument v).map (failure place) ++
            checkContent place keywords keyword argument v ++
            checkApplicator (checkSteps d steps scope) place keywords keyword argument v
    | _ => []

end SchemaCatalog.Json

namespace SchemaCatalog.SchemaDocument

/-- How many steps an evaluation that ends can be deep: every schema once for every value of
    the instance, and for one name inside it. -/
def steps (d : SchemaDocument) (v : Json) : Nat := (d.root.nodeCount + 1) * (v.nodeCount + 1)

def scope (d : SchemaDocument) : Scope := .ofUrl d.url

/-- Why the root of a document cannot be evaluated. -/
def fault? (d : SchemaDocument) : Option FieldError := d.root.fault? d.scope []

/-- What is wrong with an instance by a document without faults. -/
def failures (d : SchemaDocument) (v : Json) : List FieldError :=
  Json.checkSteps d (d.steps v) d.scope d.root [] v

end SchemaCatalog.SchemaDocument
