/-
  Binary64 numbers
  ================
  **The finite numbers of the IEEE 754 binary64 format, in exact arithmetic.**

  A number is a sign, a significand `m` and an exponent `e`, and stands for
  `± m · 2^e`.  The form is canonical: a significand below `2^52` occurs only with the
  least exponent `-1074`, so equal numbers of equal sign are
  equal as data.  Zero keeps its sign.

  `round` takes a fraction of naturals to the nearest number, and of two
  equally near ones to the one with an even significand.  Every operation is a fraction
  followed by `round`, so nothing here rests on machine floating point.
-/
namespace SchemaCatalog

/-- A finite binary64 number `± significand · 2^exponent`. -/
structure Binary64 where
  negative : Bool
  significand : Nat
  exponent : Int
deriving DecidableEq, Repr

namespace Binary64

/-- The exponent of the least positive number. -/
def minExponent : Int := -1074

/-- The greatest exponent of a number; beyond it the magnitude overflows. -/
def maxExponent : Int := 971

def zero : Binary64 := ⟨false, 0, minExponent⟩

instance : Inhabited Binary64 := ⟨zero⟩

/-- `num / den`, to the nearest natural, a half to the even neighbour. -/
def divRoundEven (num den : Nat) : Nat :=
  let q := num / den
  let r := num % den
  if 2 * r < den then q
  else if den < 2 * r then q + 1
  else if q % 2 = 0 then q else q + 1

/-- `num · 2^e / den` as a fraction of naturals. -/
def scale (num den : Nat) : Int → Nat × Nat
  | .ofNat e => (num * Nat.pow 2 e, den)
  | .negSucc e => (num, den * Nat.pow 2 (e + 1))

/-- The greatest `k` with `2^k ≤ num / den`, for positive `num` and `den`. -/
def log2 (num den : Nat) : Int :=
  let k : Int := (num.log2 : Int) - (den.log2 : Int)
  let (n, d) := scale num den (-k)
  if d ≤ n then k else k - 1

/-- The number nearest to `± num / den`, or `none` if it overflows.  The sign of a
    result zero is the one given. -/
def round (negative : Bool) (num den : Nat) : Option Binary64 :=
  if num = 0 then some ⟨negative, 0, minExponent⟩
  else
    let e := max (log2 num den - 52) minExponent
    let (n, d) := scale num den (-e)
    let m := divRoundEven n d
    -- rounding up may reach the next power of two
    let (m, e) := if m = Nat.pow 2 53 then (Nat.pow 2 52, e + 1) else (m, e)
    if maxExponent < e then none else some ⟨negative, m, e⟩

def ofNat (n : Nat) : Option Binary64 := round false n 1

/-- The magnitude as a fraction of naturals. -/
def fraction (x : Binary64) : Nat × Nat := scale x.significand 1 x.exponent

def isZero (x : Binary64) : Bool := x.significand = 0

def neg (x : Binary64) : Binary64 := { x with negative := !x.negative }

/-- The rounded product, or `none` if it overflows. -/
def mul (x y : Binary64) : Option Binary64 :=
  let (a, b) := x.fraction
  let (c, d) := y.fraction
  round (x.negative != y.negative) (a * c) (b * d)

/-- The rounded quotient, or `none` if it overflows or the divisor is zero. -/
def div (x y : Binary64) : Option Binary64 :=
  let (a, b) := x.fraction
  let (c, d) := y.fraction
  if c = 0 then none else round (x.negative != y.negative) (a * d) (b * c)

/-- Ten to the power `n`, correctly rounded. -/
def pow10 (n : Nat) : Option Binary64 := ofNat (Nat.pow 10 n)

/-- The number as a rational. -/
def toRat (x : Binary64) : Rat :=
  let (a, b) := x.fraction
  mkRat (if x.negative then -(a : Int) else a) b

/-- Whether the number is an integer. -/
def isIntegral (x : Binary64) : Bool :=
  let (a, b) := x.fraction
  a % b = 0

/-- The integer part, toward zero. -/
def truncate (x : Binary64) : Int :=
  let (a, b) := x.fraction
  if x.negative then -((a / b : Nat) : Int) else ((a / b : Nat) : Int)

end Binary64

end SchemaCatalog
