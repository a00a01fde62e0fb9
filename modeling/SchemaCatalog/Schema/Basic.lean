/-
  Schema documents
  ================
  **A JSON-Schema document as data.**

  The keywords that the rest of the library reasons about are fields of
  `Schema`; every other keyword is kept as it is in `extra`.  Where a
  keyword takes a schema it also takes a flag, `true` for the schema that
  accepts everything and `false` for the one that accepts nothing; such a
  place holds a `Subschema`.

  Absent keywords and empty collections are the same thing, so a document
  has one form as data whichever of the two it is written with.
-/
import SchemaCatalog.Json.Basic

namespace SchemaCatalog

/-- What stands where a schema is expected: a schema or a flag. -/
inductive Subschema (σ : Type) where
  | flag (b : Bool)
  | schema (s : σ)
deriving Repr

namespace Subschema

variable {σ : Type}

def schema? : Subschema σ → Option σ
  | schema s => some s
  | flag _ => none

def flag? : Subschema σ → Option Bool
  | flag b => some b
  | schema _ => none

end Subschema

/-- The keyword `items`: one schema for all elements, or one for each position. -/
inductive Items (σ : Type) where
  | each (s : Subschema σ)
  | tuple (l : List (Subschema σ))
deriving Repr

/-- The keyword `type`: one type name or several. -/
inductive TypeNames where
  | single (name : String)
  | union (names : List String)
deriving DecidableEq, Repr

/-- The names in the order in which they are declared. -/
def TypeNames.toList : TypeNames → List String
  | single name => [name]
  | union names => names

/-- A schema. -/
structure Schema where
  /-- The reference token, the keyword `$ref`. -/
  ref : Option String := none
  type : Option TypeNames := none
  properties : Table (Subschema Schema) := {}
  items : Option (Items Schema) := none
  additionalItems : Option (Subschema Schema) := none
  contains : Option (Subschema Schema) := none
  additionalProperties : Option (Subschema Schema) := none
  allOf : List (Subschema Schema) := []
  anyOf : List (Subschema Schema) := []
  oneOf : List (Subschema Schema) := []
  not : Option (Subschema Schema) := none
  /-- The schemas that the document defines by name. -/
  definitions : Table (Subschema Schema) := {}
  required : List String := []
  examples : List Json := []
  /-- The keywords that are not fields. -/
  extra : Table Json := {}
deriving Repr

/-- A table of schemas or flags by name. -/
abbrev Definitions := Table (Subschema Schema)

namespace Schema

instance : Inhabited Schema := ⟨{}⟩

/-- A schema that only points elsewhere. -/
def reference (token : String) : Schema := { ref := some token }

def ofType (name : String) : Schema := { type := some (.single name) }

/-- A schema of type `name` that also accepts `null`. -/
def nullable (name : String) : Schema := { type := some (.union [name, "null"]) }

/-- The schema without its examples, which do not count when two schemas are compared. -/
def canonical (s : Schema) : Schema := { s with examples := [] }

def hasExamples (s : Schema) : Bool := !s.examples.isEmpty

/-- The keyword `additionalProperties` where it is a flag. -/
def additionalPropertiesFlag (s : Schema) : Option Bool :=
  s.additionalProperties.bind Subschema.flag?

/-! ### Equality -/

mutual

/-- Structural equality, by recursion on the first schema. -/
def same : Schema → Schema → Bool
  | ⟨r, t, ⟨p⟩, i, ai, c, ap, all, any, one, n, ⟨d⟩, rq, ex, x⟩,
    ⟨r', t', ⟨p'⟩, i', ai', c', ap', all', any', one', n', ⟨d'⟩, rq', ex', x'⟩ =>
    decide (r = r') && decide (t = t') && sameTable p p' && sameItems i i' && sameOption ai ai' &&
      sameOption c c' && sameOption ap ap' && sameList all all' && sameList any any' &&
      sameList one one' && sameOption n n' && sameTable d d' && decide (rq = rq') &&
      decide (ex = ex') && decide (x = x')
  termination_by structural s => s

def sameSub : Subschema Schema → Subschema Schema → Bool
  | .flag a, .flag b => a == b
  | .schema s, .schema t => same s t
  | _, _ => false
  termination_by structural s => s

def sameOption : Option (Subschema Schema) → Option (Subschema Schema) → Bool
  | none, none => true
  | some s, some t => sameSub s t
  | _, _ => false
  termination_by structural s => s

def sameList : List (Subschema Schema) → List (Subschema Schema) → Bool
  | [], [] => true
  | s :: l, t :: m => sameSub s t && sameList l m
  | _, _ => false
  termination_by structural s => s

def sameItems : Option (Items Schema) → Option (Items Schema) → Bool
  | none, none => true
  | some (.each s), some (.each t) => sameSub s t
  | some (.tuple l), some (.tuple m) => sameList l m
  | _, _ => false
  termination_by structural s => s

def sameTable : List (String × Subschema Schema) → List (String × Subschema Schema) → Bool
  | [], [] => true
  | (j, s) :: l, (k, t) :: m => j == k && sameSub s t && sameTable l m
  | _, _ => false
  termination_by structural s => s

end

mutual

theorem same_iff : ∀ {s t : Schema}, same s t = true ↔ s = t
  | ⟨r, t, ⟨p⟩, i, ai, c, ap, all, any, one, n, ⟨d⟩, rq, ex, x⟩,
    ⟨r', t', ⟨p'⟩, i', ai', c', ap', all', any', one', n', ⟨d'⟩, rq', ex', x'⟩ => by
    simp [same, sameTable_iff (l := p), sameItems_iff (i := i), sameOption_iff (s := ai),
      sameOption_iff (s := c), sameOption_iff (s := ap), sameList_iff (l := all),
      sameList_iff (l := any), sameList_iff (l := one), sameOption_iff (s := n),
      sameTable_iff (l := d), and_assoc]

theorem sameSub_iff : ∀ {s t : Subschema Schema}, sameSub s t = true ↔ s = t
  | .flag _, t => by cases t <;> simp [sameSub]
  | .schema s, t => by cases t <;> simp [sameSub, same_iff (s := s)]

theorem sameOption_iff : ∀ {s t : Option (Subschema Schema)}, sameOption s t = true ↔ s = t
  | none, t => by cases t <;> simp [sameOption]
  | some s, t => by cases t <;> simp [sameOption, sameSub_iff (s := s)]

theorem sameList_iff : ∀ {l m : List (Subschema Schema)}, sameList l m = true ↔ l = m
  | [], m => by cases m <;> simp [sameList]
  | s :: l, m => by cases m <;> simp [sameList, sameSub_iff (s := s), sameList_iff (l := l)]

theorem sameItems_iff : ∀ {i j : Option (Items Schema)}, sameItems i j = true ↔ i = j
  | none, j => by cases j <;> simp [sameItems]
  | some (.each s), j => by
    rcases j with _ | (t | m) <;> simp [sameItems, sameSub_iff (s := s)]
  | some (.tuple l), j => by
    rcases j with _ | (t | m) <;> simp [sameItems, sameList_iff (l := l)]

theorem sameTable_iff :
    ∀ {l m : List (String × Subschema Schema)}, sameTable l m = true ↔ l = m
  | [], m => by cases m <;> simp [sameTable]
  | (j, s) :: l, m => by
    rcases m with _ | ⟨⟨k, t⟩, m⟩ <;>
      simp [sameTable, sameSub_iff (s := s), sameTable_iff (l := l)]

end

instance : DecidableEq Schema := fun _ _ => decidable_of_iff _ same_iff

end Schema

end SchemaCatalog
