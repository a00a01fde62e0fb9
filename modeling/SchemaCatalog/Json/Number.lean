/-
  Number text
  ===========
  **How a JSON number is read from its text and written back.**

  `NumberText` is a number as it is spelt: sign, digits before and after
  the point, exponent.  `NumberText.value?` gives it a value.  A numeral
  without point and exponent that fits 64 bits is a whole number, except
  that `-0` is a binary64 zero.  Everything else becomes a binary64 number
  in two rounded steps: the leading digits, as many as fit 64 bits, are
  rounded to a binary64 number, and that number is multiplied or divided by a rounded
  power of ten.  The result is therefore not always the nearest number to
  the text; it is the one this rule gives.

  `Number.text` writes the fewest digits that identify a number, in the
  layout that `NumberLayout.json` fixes.
-/
import SchemaCatalog.Json.Basic
import SchemaCatalog.Numeric.Shortest

namespace SchemaCatalog

/-- The greatest value of a 64-bit word. -/
def wordMax : Nat := Nat.pow 2 64 - 1

/-- A number as it is spelt.  `fraction` is empty when there is no point. -/
structure NumberText where
  negative : Bool := false
  whole : List Nat := []
  fraction : List Nat := []
  hasPoint : Bool := false
  /-- The exponent: whether it is negative, and its digits. -/
  exponent? : Option (Bool × List Nat) := none
deriving DecidableEq, Repr

namespace NumberText

/-- Takes digits into `acc` as long as the result fits a 64-bit word; returns the result,
    how many digits were taken, and how many were left. -/
def take : Nat → List Nat → Nat × Nat × Nat
  | acc, [] => (acc, 0, 0)
  | acc, d :: ds =>
    if wordMax < acc * 10 + d then (acc, 0, ds.length + 1)
    else
      let (acc, taken, left) := take (acc * 10 + d) ds
      (acc, taken + 1, left)

/-- The exponent's digits as a number, or `none` above the greatest 32-bit integer. -/
def exponentMagnitude? (ds : List Nat) : Option Nat :=
  let n := ds.foldl (fun acc d => acc * 10 + d) 0
  if Nat.pow 2 31 - 1 < n then none else some n

/-- `x · 10^exponent`, one rounded step for each 308 powers of ten; `none` on overflow.
    Three steps down take every 64-bit significand to zero, so `fuel` is `4`. -/
def scaleByTen : Nat → Binary64 → Int → Option Binary64
  | 0, x, _ => some x
  | fuel + 1, x, exponent =>
    if exponent.natAbs ≤ 308 then do
      let power ← Binary64.pow10 exponent.natAbs
      if 0 ≤ exponent then x.mul power else x.div power
    else if x.isZero then some x
    else if 0 ≤ exponent then none
    else do
      let y ← x.div (← Binary64.pow10 308)
      scaleByTen fuel y (exponent + 308)

/-- The value of a number that is no 64-bit whole number. -/
def float? (t : NumberText) : Option Binary64 := do
  let (whole, _, leftWhole) := take 0 t.whole
  let (significand, taken, _) := take whole t.fraction
  let start : Int := leftWhole - taken
  let signed (x : Binary64) : Binary64 := if t.negative then x.neg else x
  let ofExponent (e : Int) : Option Binary64 := do
    return signed (← scaleByTen 4 (← Binary64.ofNat significand) e)
  match t.exponent? with
  | none => ofExponent start
  | some (down, ds) =>
    match exponentMagnitude? ds with
    | some e =>
      let bound : Int := Nat.pow 2 31
      ofExponent (max (-bound) (min (bound - 1) (if down then start - e else start + e)))
    | none => if significand ≠ 0 ∧ ¬ down then none else some (signed .zero)

/-- The value of a number text, or `none` if it is out of range. -/
def value? (t : NumberText) : Option Number :=
  let (n, _, left) := take 0 t.whole
  if t.hasPoint ∨ t.exponent?.isSome ∨ left ≠ 0 then t.float?.map .float
  else if ¬ t.negative then some (.int n)
  else if n = 0 ∨ Nat.pow 2 63 < n then t.float?.map .float
  else some (.int (-n))

end NumberText

/-! ### Layout -/

/-- How a decimal is laid out. -/
structure NumberLayout where
  /-- The least exponent of the leading digit that is written positionally. -/
  least : Int
  /-- The greatest exponent of the leading digit that is written positionally. -/
  greatest : Int
  /-- What is written before an exponent that is not negative. -/
  exponentSign : String
  /-- What is written after the digits of a whole number. -/
  wholeSuffix : String

/-- Positional from `1e-5` up to below `1e16`, with a sign before every exponent and a digit
    after every point. -/
def NumberLayout.json : NumberLayout := ⟨-5, 15, "+", ".0"⟩

/-- Always positional, a whole number without a point. -/
def NumberLayout.positional : NumberLayout := ⟨-400, 400, "", ""⟩

/-- The text of a magnitude. -/
def NumberLayout.render (layout : NumberLayout) (x : Decimal) : String :=
  let ds := Nat.repr x.digits
  let lead : Int := x.exponent + ds.length - 1
  if x.digits = 0 then "0" ++ layout.wholeSuffix
  else if layout.least ≤ lead ∧ lead ≤ layout.greatest then
    if 0 ≤ x.exponent then
      ds ++ String.ofList (List.replicate x.exponent.toNat '0') ++ layout.wholeSuffix
    else if 0 ≤ lead then
      let (whole, fraction) := ds.toList.splitAt (lead.toNat + 1)
      String.ofList whole ++ "." ++ String.ofList fraction
    else "0." ++ String.ofList (List.replicate (-lead - 1).toNat '0') ++ ds
  else
    let mantissa := match ds.toList with
      | [] => ""
      | [d] => String.singleton d
      | d :: rest => String.singleton d ++ "." ++ String.ofList rest
    let exponent := if lead < 0 then "-" ++ Nat.repr lead.natAbs
      else layout.exponentSign ++ Nat.repr lead.natAbs
    mantissa ++ "e" ++ exponent

/-- The text of a number in a layout. -/
def Binary64.textIn (layout : NumberLayout) (x : Binary64) : String :=
  (if x.negative then "-" else "") ++ layout.render x.shortest

def Binary64.text (x : Binary64) : String := x.textIn .json

/-- The text of a whole number. -/
def integerText (n : Int) : String :=
  (if n < 0 then "-" else "") ++ Nat.repr n.natAbs

def Number.text : Number → String
  | .int n => integerText n
  | .float x => x.text

end SchemaCatalog
