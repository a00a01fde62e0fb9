/-
  Shapes
  ======
  **The structure of the values that a program holds, as far as a schema can
  say something about it.**

  A shape has a kind, a flat one or one built from other shapes, and three
  marks: the value may be absent, the value is a named entity, and the
  value is exempt from checks.  A record of shapes has fields with a name in
  the source and one on the wire.
-/
import SchemaCatalog.Table

namespace SchemaCatalog

/-- One field of a record whose type is described by `σ`. -/
structure Field (σ : Type) where
  /-- The name in the source. -/
  declaredName : String
  /-- The name under which the value is written. -/
  wireName : String
  type : σ
  /-- An empty value is left out when the record is written. -/
  skipWhenEmpty : Bool := false
deriving Repr

/-- The kind of a shape; `dynamic` is a value whose structure is known only at run time. -/
inductive Kind (σ : Type) where
  | boolean
  | integer
  | number
  | string
  | bytes
  | timestamp
  | record (fields : List (Field σ))
  | map (value : σ)
  | array (element : σ)
  | dynamic
deriving Repr

structure Shape where
  kind : Kind Shape
  /-- The value can be absent. -/
  optional : Bool := false
  /-- The name of the entity that the value is, if it is one. -/
  entity : Option String := none
  /-- The value and what is in it are not checked. -/
  exempt : Bool := false
deriving Repr

/-- The name of a kind in messages. -/
def Kind.name {σ : Type} : Kind σ → String
  | boolean => "boolean"
  | integer => "integer"
  | number => "number"
  | string => "string"
  | bytes => "bytes"
  | timestamp => "timestamp"
  | record _ => "struct"
  | map _ => "map"
  | array _ => "array"
  | dynamic => "opaque"

/-- The name of a kind in documents. -/
def Kind.tag {σ : Type} : Kind σ → String
  | record _ => "object"
  | k => k.name

def Kind.isDynamic {σ : Type} : Kind σ → Bool
  | dynamic => true
  | _ => false

def Kind.isMap {σ : Type} : Kind σ → Bool
  | map _ => true
  | _ => false

namespace Field

/-- A field with one name for both uses. -/
def ofName {σ : Type} (name : String) (type : σ) : Field σ := ⟨name, name, type, false⟩

end Field

namespace Shape

instance : Inhabited Shape := ⟨⟨.dynamic, false, none, false⟩⟩

def boolean : Shape := { kind := .boolean }

def integer : Shape := { kind := .integer }

def number : Shape := { kind := .number }

def string : Shape := { kind := .string }

def bytes : Shape := { kind := .bytes }

def timestamp : Shape := { kind := .timestamp }

def dynamic : Shape := { kind := .dynamic }

def record (fields : List (Field Shape)) : Shape := { kind := .record fields }

def map (value : Shape) : Shape := { kind := .map value }

def array (element : Shape) : Shape := { kind := .array element }

/-- The shape of a value that may be absent. -/
def orAbsent (s : Shape) : Shape := { s with optional := true }

/-- The shape of the entity `name`. -/
def ofEntity (s : Shape) (name : String) : Shape := { s with entity := some name }

/-- The shape of a value that is exempt from checks if `b` holds. -/
def exemptIf (s : Shape) (b : Bool) : Shape := { s with exempt := b }

def isEntity (s : Shape) : Bool := s.entity.isSome

/-- The fields of a record; other kinds have none. -/
def fields (s : Shape) : List (Field Shape) :=
  match s.kind with
  | .record fields => fields
  | _ => []

/-! ### Equality -/

mutual

/-- Structural equality, by recursion on the first shape. -/
def same : Shape → Shape → Bool
  | ⟨k, o, e, x⟩, ⟨k', o', e', x'⟩ => sameKind k k' && o == o' && e == e' && x == x'
  termination_by structural s => s

def sameKind : Kind Shape → Kind Shape → Bool
  | .record l, .record m => sameFields l m
  | .map s, .map t => same s t
  | .array s, .array t => same s t
  | .boolean, .boolean | .integer, .integer | .number, .number | .string, .string
  | .bytes, .bytes | .timestamp, .timestamp | .dynamic, .dynamic => true
  | _, _ => false
  termination_by structural k => k

def sameFields : List (Field Shape) → List (Field Shape) → Bool
  | [], [] => true
  | ⟨d, w, s, k⟩ :: l, ⟨d', w', t, k'⟩ :: m =>
    d == d' && w == w' && same s t && k == k' && sameFields l m
  | _, _ => false
  termination_by structural l => l

end

mutual

theorem same_iff : ∀ {s t : Shape}, same s t = true ↔ s = t
  | ⟨k, o, e, x⟩, ⟨k', o', e', x'⟩ => by simp [same, sameKind_iff (j := k), and_assoc]

theorem sameKind_iff : ∀ {j k : Kind Shape}, sameKind j k = true ↔ j = k
  | .record l, k => by cases k <;> simp [sameKind, sameFields_iff (l := l)]
  | .map s, k => by cases k <;> simp [sameKind, same_iff (s := s)]
  | .array s, k => by cases k <;> simp [sameKind, same_iff (s := s)]
  | .boolean, k | .integer, k | .number, k | .string, k | .bytes, k | .timestamp, k
  | .dynamic, k => by cases k <;> simp [sameKind]

theorem sameFields_iff : ∀ {l m : List (Field Shape)}, sameFields l m = true ↔ l = m
  | [], m => by cases m <;> simp [sameFields]
  | ⟨d, w, s, k⟩ :: l, m => by
    rcases m with _ | ⟨⟨d', w', t, k'⟩, m⟩ <;>
      simp [sameFields, same_iff (s := s), sameFields_iff (l := l), and_assoc]

end

instance : DecidableEq Shape := fun _ _ => decidable_of_iff _ same_iff

end Shape

end SchemaCatalog
