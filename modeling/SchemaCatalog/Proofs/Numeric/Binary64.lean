/-
  Canonical binary64 numbers
  ==========================
  **Every operation gives a number in canonical form.**

  A number is canonical when its significand has at most 53 bits, its
  exponent is in range, and the leading bit is set unless the exponent is the least
  one.  A canonical number is determined by its sign and its magnitude.
  Rounding is the only way in which the operations make numbers, so it is enough
  that `round` gives canonical ones.
-/
import Mathlib.Algebra.Order.Field.Power
import Mathlib.Data.Rat.Cast.Order
import Mathlib.Tactic.FieldSimp
import Mathlib.Tactic.Linarith
import Mathlib.Tactic.Positivity
import Mathlib.Tactic.Ring
import SchemaCatalog.Numeric.Binary64

namespace SchemaCatalog.Binary64

/-! ## 1. Fractions -/

theorem two_zpow_pos (e : Int) : (0 : ℚ) < 2 ^ e := zpow_pos (by norm_num) e

theorem two_zpow_add (e f : Int) : (2 : ℚ) ^ (e + f) = 2 ^ e * 2 ^ f :=
  zpow_add₀ (by norm_num) e f

/-- `scale` multiplies a fraction by a power of two. -/
theorem scale_spec (num : Nat) {den : Nat} (hden : 0 < den) (e : Int) :
    0 < (scale num den e).2 ∧
      ((scale num den e).1 : ℚ) / (scale num den e).2 = num / den * 2 ^ e := by
  have hpos : (0 : ℚ) < den := by exact_mod_cast hden
  cases e with
  | ofNat e =>
    refine ⟨hden, ?_⟩
    simp only [scale, Nat.pow_eq, Int.ofNat_eq_natCast, zpow_natCast]
    push_cast
    ring
  | negSucc e =>
    refine ⟨Nat.mul_pos hden (Nat.two_pow_pos (e + 1)), ?_⟩
    simp only [scale, Nat.pow_eq, zpow_negSucc]
    push_cast
    field_simp

/-- `log2` is the exponent of the leading bit. -/
theorem log2_spec {num den : Nat} (hnum : 0 < num) (hden : 0 < den) :
    (2 : ℚ) ^ log2 num den ≤ num / den ∧ (num : ℚ) / den < 2 ^ (log2 num den + 1) := by
  have hposn : (0 : ℚ) < num := by exact_mod_cast hnum
  have hposd : (0 : ℚ) < den := by exact_mod_cast hden
  have hn : (2 : ℚ) ^ num.log2 ≤ num ∧ (num : ℚ) < 2 ^ (num.log2 + 1) :=
    ⟨by exact_mod_cast Nat.log2_self_le hnum.ne', by exact_mod_cast Nat.lt_log2_self⟩
  have hd : (2 : ℚ) ^ den.log2 ≤ den ∧ (den : ℚ) < 2 ^ (den.log2 + 1) :=
    ⟨by exact_mod_cast Nat.log2_self_le hden.ne', by exact_mod_cast Nat.lt_log2_self⟩
  -- the leading bits alone leave two candidates
  have hupper : (num : ℚ) / den < 2 ^ ((num.log2 : Int) - den.log2 + 1) := by
    have hsplit : (2 : ℚ) ^ ((num.log2 : Int) - den.log2 + 1) =
        2 ^ (num.log2 + 1) / 2 ^ den.log2 := by
      rw [sub_add_eq_add_sub, zpow_sub₀ (by norm_num), zpow_natCast]
      norm_cast
    rw [hsplit, div_lt_div_iff₀ hposd (by positivity)]
    calc (num : ℚ) * 2 ^ den.log2 < 2 ^ (num.log2 + 1) * 2 ^ den.log2 :=
          mul_lt_mul_of_pos_right hn.2 (by positivity)
      _ ≤ 2 ^ (num.log2 + 1) * den := mul_le_mul_of_nonneg_left hd.1 (by positivity)
  have hlower : (2 : ℚ) ^ ((num.log2 : Int) - den.log2 - 1) < num / den := by
    have hsplit : (2 : ℚ) ^ ((num.log2 : Int) - den.log2 - 1) =
        2 ^ num.log2 / 2 ^ (den.log2 + 1) := by
      rw [sub_sub, zpow_sub₀ (by norm_num), zpow_natCast]
      norm_cast
    rw [hsplit, div_lt_div_iff₀ (by positivity) hposd]
    calc (2 : ℚ) ^ num.log2 * den < 2 ^ num.log2 * 2 ^ (den.log2 + 1) :=
          mul_lt_mul_of_pos_left hd.2 (by positivity)
      _ ≤ num * 2 ^ (den.log2 + 1) := mul_le_mul_of_nonneg_right hn.1 (by positivity)
  obtain ⟨hscaled, hquot⟩ := scale_spec num hden (-((num.log2 : Int) - den.log2))
  rw [zpow_neg, ← div_eq_mul_inv] at hquot
  have hposs : (0 : ℚ) < (scale num den (-((num.log2 : Int) - den.log2))).2 := by
    exact_mod_cast hscaled
  simp only [log2]
  split
  · next hle =>
    refine ⟨?_, hupper⟩
    have hone : (1 : ℚ) ≤ num / den / 2 ^ ((num.log2 : Int) - den.log2) := by
      rw [← hquot, le_div_iff₀ hposs, one_mul]
      exact_mod_cast hle
    rwa [le_div_iff₀ (two_zpow_pos _), one_mul] at hone
  · next hlt =>
    refine ⟨hlower.le, ?_⟩
    have hone : (num : ℚ) / den / 2 ^ ((num.log2 : Int) - den.log2) < 1 := by
      rw [← hquot, div_lt_iff₀ hposs, one_mul]
      exact_mod_cast Nat.lt_of_not_le hlt
    rw [div_lt_iff₀ (two_zpow_pos _), one_mul] at hone
    rwa [sub_add_cancel]

/-! ## 2. Rounding to a natural -/

theorem le_divRoundEven {num den q : Nat} (hden : 0 < den) (h : q * den ≤ num) :
    q ≤ divRoundEven num den := by
  have hq : q ≤ num / den := (Nat.le_div_iff_mul_le hden).mpr h
  simp only [divRoundEven]
  split
  · exact hq
  · split
    · omega
    · split <;> omega

theorem divRoundEven_le {num den q : Nat} (hden : 0 < den) (h : num ≤ q * den) :
    divRoundEven num den ≤ q := by
  have hq : num / den ≤ q := Nat.div_le_of_le_mul (by rw [Nat.mul_comm]; exact h)
  have hsplit : den * (num / den) + num % den = num := Nat.div_add_mod num den
  -- with a remainder the quotient stays below `q`
  have hrest : 0 < num % den → num / den < q := by
    intro hpos
    apply Nat.lt_of_mul_lt_mul_left (a := den)
    calc den * (num / den) < num := by omega
      _ ≤ den * q := by rw [Nat.mul_comm]; exact h
  simp only [divRoundEven]
  split
  · exact hq
  · split
    · exact hrest (by omega)
    · split
      · exact hq
      · exact hrest (by omega)

/-- The nearest natural is at most half a step away. -/
theorem divRoundEven_near (num : Nat) {den : Nat} (hden : 0 < den) :
    2 * num ≤ 2 * (divRoundEven num den * den) + den ∧
      2 * (divRoundEven num den * den) ≤ 2 * num + den := by
  have hsplit : num / den * den + num % den = num := by
    rw [Nat.mul_comm]
    exact Nat.div_add_mod num den
  have hlt : num % den < den := Nat.mod_lt num hden
  have hsucc : (num / den + 1) * den = num / den * den + den := Nat.succ_mul _ _
  simp only [divRoundEven]
  split
  · omega
  · split
    · omega
    · split <;> omega

/-! ## 3. Canonical numbers -/

/-- Normal with 53 bits, or with the least exponent. -/
structure Canonical (x : Binary64) : Prop where
  significand_lt : x.significand < 2 ^ 53
  minExponent_le : minExponent ≤ x.exponent
  exponent_le : x.exponent ≤ maxExponent
  normal : minExponent < x.exponent → 2 ^ 52 ≤ x.significand

theorem canonical_zero : zero.Canonical where
  significand_lt := by decide
  minExponent_le := by decide
  exponent_le := by decide
  normal h := absurd h (by decide)

/-- **Rounding gives canonical numbers.** -/
theorem round_canonical {negative : Bool} {num den : Nat} {x : Binary64} (hden : 0 < den)
    (h : round negative num den = some x) : x.Canonical := by
  rw [round] at h
  split at h
  · cases h
    exact ⟨by norm_num, le_refl _, (by decide : minExponent ≤ maxExponent),
      fun hlt => absurd hlt (lt_irrefl _)⟩
  · next hnum =>
    obtain ⟨hlog, hlog'⟩ := log2_spec (Nat.pos_of_ne_zero hnum) hden
    generalize hexponent : max (log2 num den - 52) minExponent = e at h
    obtain ⟨hscaled, hquot⟩ := scale_spec num hden (-e)
    simp only [Nat.pow_eq] at h
    generalize hscale : scale num den (-e) = f at h hscaled hquot
    obtain ⟨n, d⟩ := f
    simp only at h hscaled hquot
    have hposd : (0 : ℚ) < d := by exact_mod_cast hscaled
    rw [zpow_neg, ← div_eq_mul_inv] at hquot
    have hupper : divRoundEven n d ≤ 2 ^ 53 := by
      have hlt : (n : ℚ) / d ≤ 2 ^ 53 := by
        rw [hquot, div_le_iff₀ (two_zpow_pos e)]
        calc (num : ℚ) / den ≤ 2 ^ (log2 num den + 1) := hlog'.le
          _ ≤ 2 ^ (53 + e) := zpow_le_zpow_right₀ (by norm_num) (by omega)
          _ = 2 ^ 53 * 2 ^ e := by rw [two_zpow_add]; norm_cast
      rw [div_le_iff₀ hposd] at hlt
      exact divRoundEven_le hscaled (by exact_mod_cast hlt)
    have hlower : minExponent < e → 2 ^ 52 ≤ divRoundEven n d := by
      intro hnormal
      have hle : (2 : ℚ) ^ 52 ≤ n / d := by
        rw [hquot, le_div_iff₀ (two_zpow_pos e)]
        calc (2 : ℚ) ^ 52 * 2 ^ e = 2 ^ (52 + e) := by rw [two_zpow_add]; norm_cast
          _ ≤ 2 ^ log2 num den := zpow_le_zpow_right₀ (by norm_num) (by omega)
          _ ≤ num / den := hlog
      rw [le_div_iff₀ hposd] at hle
      exact le_divRoundEven hscaled (by exact_mod_cast hle)
    have hmin : minExponent ≤ e := hexponent ▸ le_max_right _ _
    by_cases hcarry : divRoundEven n d = 2 ^ 53
    · rw [if_pos hcarry] at h
      simp only at h
      split at h
      · cases h
      · next hmax =>
        cases h
        exact ⟨by norm_num, by simp only; omega, by simp only; omega, fun _ => le_refl _⟩
    · rw [if_neg hcarry] at h
      simp only at h
      split at h
      · cases h
      · next hmax =>
        cases h
        exact ⟨lt_of_le_of_ne hupper hcarry, hmin, not_lt.mp hmax, hlower⟩

theorem fraction_pos (x : Binary64) : 0 < x.fraction.2 :=
  (scale_spec x.significand Nat.one_pos x.exponent).1

theorem ofNat_canonical {n : Nat} {x : Binary64} (h : ofNat n = some x) : x.Canonical :=
  round_canonical Nat.one_pos h

theorem mul_canonical {x y z : Binary64} (h : x.mul y = some z) : z.Canonical :=
  round_canonical (Nat.mul_pos x.fraction_pos y.fraction_pos) h

theorem div_canonical {x y z : Binary64} (h : x.div y = some z) : z.Canonical := by
  simp only [div] at h
  split at h
  · cases h
  · next hne => exact round_canonical (Nat.mul_pos x.fraction_pos (Nat.pos_of_ne_zero hne)) h

theorem Canonical.neg {x : Binary64} (h : x.Canonical) : x.neg.Canonical :=
  ⟨h.significand_lt, h.minExponent_le, h.exponent_le, h.normal⟩

end SchemaCatalog.Binary64
