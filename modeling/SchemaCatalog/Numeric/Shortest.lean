/-
  Shortest decimals
  =================
  **The fewest decimal digits that identify a binary64 number.**

  A decimal identifies `m · 2^e` when it lies nearer to it than to every
  other number of the format: between the midpoints to the two neighbours,
  the midpoints included exactly when `m` is even.  For `n = 1, 2, …, 17`
  the two points of the `n`-digit grid around the number are tried; the
  first grid with a point inside wins, and of two points the nearer one,
  the even one on a tie.
-/
import SchemaCatalog.Numeric.Binary64

namespace SchemaCatalog

/-- The decimal `digits · 10^exponent`. -/
structure Decimal where
  digits : Nat
  exponent : Int
deriving DecidableEq, Repr

namespace Decimal

/-- Drops the trailing zeros of the digits; `fuel` bounds their number. -/
def trim : Nat → Decimal → Decimal
  | 0, x => x
  | fuel + 1, x =>
    if x.digits ≠ 0 ∧ x.digits % 10 = 0 then trim fuel ⟨x.digits / 10, x.exponent + 1⟩ else x

end Decimal

namespace Binary64

/-- The midpoints between `m · 2^e` and its two neighbours, in units of `2^(e - 2)`.
    Below a power of two the gap is half as wide. -/
def midpoints (m : Nat) (e : Int) : Nat × Nat :=
  (if m = Nat.pow 2 52 ∧ minExponent < e then 4 * m - 1 else 4 * m - 2, 4 * m + 2)

/-- The greatest `k` with `10^k ≤ num / den`, searched downwards from `k`. -/
def log10From (num den : Nat) : Nat → Int → Int
  | 0, k => k
  | fuel + 1, k =>
    let (n, d) : Nat × Nat := match k with
      | .ofNat k => (num, den * Nat.pow 10 k)
      | .negSucc k => (num * Nat.pow 10 (k + 1), den)
    if d ≤ n then k else log10From num den fuel (k - 1)

/-- The point of the grid with step `10^k` that is nearest to `m · 2^e`, if it identifies
    that number.  `low` and `high` are the midpoints. -/
def onGrid? (m : Nat) (e k : Int) (low high : Nat) : Option Nat :=
  -- in units of `2^(e - 2)`, of which `up / down` steps make one
  let (up, down) : Nat × Nat := scale 1 1 (e - 2)
  let (up, down) : Nat × Nat := match k with
    | .ofNat k => (up, down * Nat.pow 10 k)
    | .negSucc k => (up * Nat.pow 10 (k + 1), down)
  let value := 4 * m * up
  let inside (g : Nat) : Bool :=
    if m % 2 = 0 then low * up ≤ g * down && g * down ≤ high * up
    else low * up < g * down && g * down < high * up
  -- where the gap below is half as wide, the neighbour above may be the only point inside
  [divRoundEven value down, value / down, value / down + 1].find? inside

/-- The shortest decimal that identifies the magnitude of a number; zero has the digit `0`. -/
def shortest (x : Binary64) : Decimal :=
  if x.significand = 0 then ⟨0, 0⟩
  else
    let (num, den) := x.fraction
    let (low, high) := midpoints x.significand x.exponent
    -- the decimal exponent is the binary one times `log10 2`, give or take one
    let top : Int := (log2 num den) * 30103 / 100000 + 1
    let k := log10From num den 4 top
    let found := (List.range 17).findSome? fun (n : Nat) =>
      (onGrid? x.significand x.exponent (k - n) low high).map fun d => (⟨d, k - n⟩ : Decimal)
    Decimal.trim 20 (found.getD ⟨0, 0⟩)

end Binary64

end SchemaCatalog
