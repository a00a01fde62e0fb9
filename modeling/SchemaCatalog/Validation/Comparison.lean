/-
  Comparison of values
  ====================
  **When two values count as equal, and when a number divides another.**

  Numbers are compared as rationals, so `1` agrees with `1.0`, and two whole
  numbers that have the same nearest binary64 number do not agree.  A number
  given as a constant is met by every number that is near enough to it.
-/
import SchemaCatalog.Json.Number

namespace SchemaCatalog

namespace Number

def toRat : Number → Rat
  | int n => n
  | float x => x.toRat

/-- The nearest binary64 number. -/
def toBinary64 : Number → Binary64
  | int n => (Binary64.round (n < 0) n.natAbs 1).getD .zero
  | float x => x

/-- Whether the number is whole, in value and not in form. -/
def isWhole : Number → Bool
  | int _ => true
  | float x => x.isIntegral

/-- The distance within which two numbers count as the same constant. -/
def tolerance : Rat := mkRat 1 (Nat.pow 2 52)

/-- Equality up to the form of the numbers. -/
def agrees (m n : Number) : Bool := m.toRat = n.toRat

/-- Whether a number is a given constant, nearly. -/
def isNear (m n : Number) : Bool :=
  let distance := m.toBinary64.toRat - n.toBinary64.toRat
  distance < tolerance && -distance < tolerance

end Number

namespace Binary64

/-- A numerator and a power of ten below it that give a positive number: the least power for
    which the rounded product is whole, up to the tolerance.  What is left beyond the point
    is dropped.  `fuel` bounds the exponent. -/
def decimalFraction (x : Binary64) : Nat → Nat → Nat × Nat
  | 0, p => (x.truncate.toNat, Nat.pow 10 p)
  | fuel + 1, p =>
    match (pow10 p).bind x.mul with
    | none => (x.truncate.toNat, 1)
    | some scaled =>
      if scaled.toRat - scaled.truncate < Number.tolerance then
        (scaled.truncate.toNat, Nat.pow 10 p)
      else decimalFraction x fuel (p + 1)

/-- Whether a number is a multiple of another.  By a whole number it must divide exactly; by a
    fraction, the rounded quotient must not exceed a whole number by the tolerance or more.
    Where the quotient overflows, the fraction in decimals decides; nothing is said about a
    divisor that is zero there. -/
def isMultiple (x divisor : Binary64) : Bool :=
  if divisor.isIntegral then (x.toRat / divisor.toRat).isInt
  else
    match x.div divisor with
    | some quotient => quotient.toRat - quotient.truncate < Number.tolerance
    | none =>
      match decimalFraction divisor 60 0 with
      | (0, _) => true
      | (num, den) => (x.toRat * (den : Rat) / (num : Rat)).isInt

end Binary64

namespace Json

mutual

/-- Equality of values up to the form of the numbers in them. -/
def agrees : Json → Json → Bool
  | null, null => true
  | bool a, bool b => a == b
  | num m, num n => m.agrees n
  | str s, str t => s == t
  | arr l, arr m => agreesElements l m
  | obj ⟨l⟩, obj ⟨m⟩ => agreesMembers l m
  | _, _ => false

def agreesElements : List Json → List Json → Bool
  | [], [] => true
  | a :: l, b :: m => agrees a b && agreesElements l m
  | _, _ => false

def agreesMembers : List (String × Json) → List (String × Json) → Bool
  | [], [] => true
  | (j, a) :: l, (k, b) :: m => j == k && agrees a b && agreesMembers l m
  | _, _ => false

end

/-- Whether a value is the constant `c`. -/
def isConstant (c v : Json) : Bool :=
  match c, v with
  | num m, num n => m.isNear n
  | c, v => c.agrees v

/-- Whether no two elements are equal by `same`. -/
def pairwiseDistinct (same : Json → Json → Bool) : List Json → Bool
  | [] => true
  | v :: rest => !rest.any (same v) && pairwiseDistinct same rest

/-- The greatest number of elements that are compared up to the form of numbers. -/
def smallArray : Nat := 15

/-- Whether no element occurs twice.  In a long array the form of numbers counts. -/
def distinct (l : List Json) : Bool :=
  pairwiseDistinct (if l.length ≤ smallArray then agrees else same) l

/-- Whether a value is of the type named. -/
def hasType (v : Json) (name : String) : Bool :=
  match v with
  | null => name = "null"
  | bool _ => name = "boolean"
  | num n => name = "number" || (name = "integer" && n.isWhole)
  | str _ => name = "string"
  | arr _ => name = "array"
  | obj _ => name = "object"

/-- The strings of an array. -/
def strings : Json → List String
  | arr l => l.filterMap fun v => match v with
    | str s => some s
    | _ => none
  | _ => []

end Json

end SchemaCatalog
