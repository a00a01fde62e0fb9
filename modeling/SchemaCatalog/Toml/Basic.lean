/-
  TOML values
  ===========
  **What a TOML document means.**

  A table is a `Table`, so the order of keys is that of their names.  Dates
  and times are kept as text.  Numbers with a fraction or an exponent are
  binary64 numbers or one of the three special values.
-/
import SchemaCatalog.Table
import SchemaCatalog.Json.Number

namespace SchemaCatalog

/-- A binary64 value, infinities and NaN included. -/
inductive Floating where
  | finite (x : Binary64)
  | infinite (negative : Bool)
  | nan
deriving DecidableEq, Repr

namespace Floating

/-- The value nearest to `± digits · 10^exponent`. -/
def ofDecimal (negative : Bool) (digits : Nat) (exponent : Int) : Floating :=
  -- far outside the range the sign of the exponent alone decides
  let lead : Int := exponent + (Nat.repr digits).length
  if digits = 0 ∨ lead < -400 then .finite ⟨negative, 0, Binary64.minExponent⟩
  else if 400 < lead then .infinite negative
  else
    let (num, den) : Nat × Nat := match exponent with
      | .ofNat e => (digits * Nat.pow 10 e, 1)
      | .negSucc e => (digits, Nat.pow 10 (e + 1))
    match Binary64.round negative num den with
    | some x => .finite x
    | none => .infinite negative

/-- The text with the fewest digits, always positional. -/
def text : Floating → String
  | finite x => x.textIn .positional
  | infinite negative => if negative then "-inf" else "inf"
  | nan => "NaN"

/-- The nearest whole number, a half away from zero, or `none` if the value is not finite. -/
def round? : Floating → Option Int
  | finite x =>
    let (a, b) := x.fraction
    let n : Int := ((2 * a + b) / (2 * b) : Nat)
    some (if x.negative then -n else n)
  | infinite _ | nan => none

end Floating

namespace Toml

inductive Value where
  | string (s : String)
  | integer (n : Int)
  | float (x : Floating)
  | boolean (b : Bool)
  /-- A date, a time, or both, in its normal form. -/
  | moment (text : String)
  | array (l : List Value)
  | table (t : Table Value)
deriving Repr

instance : Inhabited Value := ⟨.table {}⟩

end Toml

end SchemaCatalog
