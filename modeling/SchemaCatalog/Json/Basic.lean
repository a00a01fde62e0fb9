/-
  JSON values
  ===========
  **JSON values as data: what a document means, without its layout.**

  An object is a `Table`, so the order of its members is that of their
  names and no name occurs twice.  A number is either a whole number or a
  binary64 number; the two are kept apart, so `1` and `1.0` are different
  values, as are `0.0` and `-0.0`.

  Equality is decided by `Json.same`, a recursion on the tree, with
  `Json.same_iff` saying that it is equality.
-/
import SchemaCatalog.Table
import SchemaCatalog.Numeric.Binary64

namespace SchemaCatalog

/-- A JSON number.  Whole numbers are those of 64 bits, signed or unsigned; a number
    written with a fraction or an exponent, or out of that range, is a binary64 number. -/
inductive Number where
  | int (n : Int)
  | float (x : Binary64)
deriving DecidableEq, Repr

inductive Json where
  | null
  | bool (b : Bool)
  | num (n : Number)
  | str (s : String)
  | arr (elements : List Json)
  | obj (members : Table Json)
deriving Repr

namespace Json

instance : Inhabited Json := ⟨null⟩

mutual

/-- Structural equality, by recursion on the first value. -/
def same : Json → Json → Bool
  | null, null => true
  | bool a, bool b => a == b
  | num m, num n => m == n
  | str s, str t => s == t
  | arr l, arr m => sameElements l m
  | obj ⟨l⟩, obj ⟨m⟩ => sameMembers l m
  | _, _ => false

def sameElements : List Json → List Json → Bool
  | [], [] => true
  | a :: l, b :: m => same a b && sameElements l m
  | _, _ => false

def sameMembers : List (String × Json) → List (String × Json) → Bool
  | [], [] => true
  | (j, a) :: l, (k, b) :: m => j == k && same a b && sameMembers l m
  | _, _ => false

end

mutual

theorem same_iff : ∀ {a b : Json}, same a b = true ↔ a = b
  | null, b => by cases b <;> simp [same]
  | bool _, b => by cases b <;> simp [same]
  | num _, b => by cases b <;> simp [same]
  | str _, b => by cases b <;> simp [same]
  | arr l, b => by
    cases b <;> simp [same]
    exact sameElements_iff
  | obj ⟨l⟩, b => by
    cases b <;> simp [same]
    next m =>
      obtain ⟨m⟩ := m
      simpa using sameMembers_iff

theorem sameElements_iff : ∀ {l m : List Json}, sameElements l m = true ↔ l = m
  | [], m => by cases m <;> simp [sameElements]
  | a :: l, m => by
    cases m with
    | nil => simp [sameElements]
    | cons b m => simp [sameElements, same_iff (a := a), sameElements_iff (l := l)]

theorem sameMembers_iff : ∀ {l m : List (String × Json)}, sameMembers l m = true ↔ l = m
  | [], m => by cases m <;> simp [sameMembers]
  | (j, a) :: l, m => by
    cases m with
    | nil => simp [sameMembers]
    | cons e m =>
      obtain ⟨k, b⟩ := e
      simp [sameMembers, same_iff (a := a), sameMembers_iff (l := l)]

end

instance : DecidableEq Json := fun _ _ => decidable_of_iff _ same_iff

/-- The member `name` of an object. -/
def get? : Json → String → Option Json
  | obj members, name => members.get? name
  | _, _ => none

/-- The object with these members; of two under one name the later one counts. -/
def ofMembers (l : List (String × Json)) : Json := obj (Table.ofList l)

def ofNat (n : Nat) : Json := num (.int n)

def ofStrings (l : List String) : Json := arr (l.map str)

end Json

end SchemaCatalog
