/-
  Shortest decimals identify numbers
  ==================================
  **No two binary64 numbers have the same shortest decimal.**

  A decimal identifies a number when it lies between the midpoints to the
  neighbours of the number, and on a midpoint only if the significand is even.  Of two
  neighbours one has an odd significand, so no decimal identifies two
  numbers (`eq_of_identifies`).

  The search for the shortest decimal ends with one that identifies the
  number: the grid of seventeen digits is finer than the distance between the
  midpoints (`onGrid?_isSome`), provided that the search starts at the right power of
  ten, which rests on an approximation of `log10 2` checked for every binary
  exponent (`pow_top_le`).
-/
import SchemaCatalog.Numeric.Shortest
import SchemaCatalog.Proofs.Numeric.Binary64

namespace SchemaCatalog

/-- The rational that a decimal stands for. -/
def Decimal.value (x : Decimal) : ℚ := x.digits * 10 ^ x.exponent

theorem Decimal.trim_value (fuel : Nat) (x : Decimal) : (x.trim fuel).value = x.value := by
  induction fuel generalizing x with
  | zero => rfl
  | succ fuel ih =>
    rw [trim]
    split
    · next h =>
      have hdigits : (x.digits : ℚ) = (x.digits / 10 : Nat) * 10 := by
        exact_mod_cast (Nat.div_mul_cancel (Nat.dvd_of_mod_eq_zero h.2)).symm
      rw [ih, value, value, hdigits, zpow_add₀ (by norm_num), zpow_one]
      ring
    · rfl

namespace Binary64

/-! ## 1. Decimals that identify a number -/

/-- The rational `v` is nearer to `m · 2^e` than to the neighbours, or as near if `m` is even. -/
def Identifies (v : ℚ) (m : Nat) (e : Int) : Prop :=
  if m % 2 = 0 then
    (midpoints m e).1 * (2 : ℚ) ^ (e - 2) ≤ v ∧ v ≤ (midpoints m e).2 * (2 : ℚ) ^ (e - 2)
  else (midpoints m e).1 * (2 : ℚ) ^ (e - 2) < v ∧ v < (midpoints m e).2 * (2 : ℚ) ^ (e - 2)

section

variable {v : ℚ} {m n : Nat} {e f : Int}

theorem Identifies.le (h : Identifies v m e) :
    (midpoints m e).1 * (2 : ℚ) ^ (e - 2) ≤ v ∧ v ≤ (midpoints m e).2 * (2 : ℚ) ^ (e - 2) := by
  rw [Identifies] at h
  split at h
  · exact h
  · exact ⟨h.1.le, h.2.le⟩

theorem Identifies.lt (h : Identifies v m e) (hodd : m % 2 ≠ 0) :
    (midpoints m e).1 * (2 : ℚ) ^ (e - 2) < v ∧ v < (midpoints m e).2 * (2 : ℚ) ^ (e - 2) := by
  rw [Identifies, if_neg hodd] at h
  exact h

theorem midpoints_bounds (m : Nat) (e : Int) :
    4 * m - 2 ≤ (midpoints m e).1 ∧ (midpoints m e).2 = 4 * m + 2 := by
  rw [midpoints]
  refine ⟨?_, rfl⟩
  split <;> simp only <;> omega

/-- Where the upper midpoint of one number is at most the lower one of another, and less unless
    one of the significands is odd, nothing identifies both. -/
theorem not_identifies_both
    (hle : ((midpoints m e).2 : ℚ) * 2 ^ (e - 2) ≤ (midpoints n f).1 * 2 ^ (f - 2))
    (hlt : m % 2 = 0 → n % 2 = 0 →
      ((midpoints m e).2 : ℚ) * 2 ^ (e - 2) < (midpoints n f).1 * 2 ^ (f - 2))
    (h : Identifies v m e) (h' : Identifies v n f) : False := by
  by_cases hm : m % 2 = 0
  · by_cases hn : n % 2 = 0
    · exact absurd (h'.le.1.trans h.le.2) (not_le.mpr (hlt hm hn))
    · exact absurd ((h'.lt hn).1.trans_le h.le.2) (not_lt.mpr hle)
  · exact absurd (h'.le.1.trans_lt (h.lt hm).2) (not_lt.mpr hle)

/-- Of two numbers with one exponent nothing identifies both. -/
theorem not_identifies_both_of_lt (hmn : m < n) (h : Identifies v m e) (h' : Identifies v n e) :
    False := by
  obtain ⟨_, hupper⟩ := midpoints_bounds m e
  obtain ⟨hlower, _⟩ := midpoints_bounds n e
  refine not_identifies_both ?_ ?_ h h'
  · have hle : (midpoints m e).2 ≤ (midpoints n e).1 := by omega
    exact mul_le_mul_of_nonneg_right (by exact_mod_cast hle) (two_zpow_pos _).le
  · intro hm hn
    have hlt : (midpoints m e).2 < (midpoints n e).1 := by omega
    exact mul_lt_mul_of_pos_right (by exact_mod_cast hlt) (two_zpow_pos _)

/-- Of two numbers with different exponents nothing identifies both. -/
theorem not_identifies_both_of_exponent_lt (hm : m < 2 ^ 53) (hn : 2 ^ 52 ≤ n)
    (hmin : minExponent < f) (hef : e < f) (h : Identifies v m e) (h' : Identifies v n f) :
    False := by
  obtain ⟨_, hupper⟩ := midpoints_bounds m e
  have hlower : 2 ^ 54 - 1 ≤ (midpoints n f).1 := by
    rw [midpoints]
    simp only [Nat.pow_eq]
    split <;> omega
  have hdouble : ((2 ^ 55 - 2 : Nat) : ℚ) * 2 ^ (e - 2) ≤ (midpoints n f).1 * 2 ^ (f - 2) := by
    have hpow : (2 : ℚ) * 2 ^ (e - 2) ≤ 2 ^ (f - 2) := by
      rw [← zpow_one_add₀ (by norm_num)]
      exact zpow_le_zpow_right₀ (by norm_num) (by omega)
    calc ((2 ^ 55 - 2 : Nat) : ℚ) * 2 ^ (e - 2)
        = ((2 ^ 54 - 1 : Nat) : ℚ) * (2 * 2 ^ (e - 2)) := by norm_num; ring
      _ ≤ (midpoints n f).1 * 2 ^ (f - 2) :=
          mul_le_mul (by exact_mod_cast hlower) hpow (by positivity) (by positivity)
  refine not_identifies_both (le_trans ?_ hdouble) (fun heven _ => lt_of_lt_of_le ?_ hdouble) h h'
  · have hle : (midpoints m e).2 ≤ 2 ^ 55 - 2 := by omega
    exact mul_le_mul_of_nonneg_right (by exact_mod_cast hle) (two_zpow_pos _).le
  · have hlt : (midpoints m e).2 < 2 ^ 55 - 2 := by omega
    exact mul_lt_mul_of_pos_right (by exact_mod_cast hlt) (two_zpow_pos _)

end

/-- **A decimal identifies at most one number.** -/
theorem eq_of_identifies {x y : Binary64} {v : ℚ} (hx : x.Canonical) (hy : y.Canonical)
    (h : Identifies v x.significand x.exponent) (h' : Identifies v y.significand y.exponent) :
    x.significand = y.significand ∧ x.exponent = y.exponent := by
  rcases lt_trichotomy x.exponent y.exponent with hlt | heq | hgt
  · have hmin := lt_of_le_of_lt hx.minExponent_le hlt
    exact absurd h'
      (not_identifies_both_of_exponent_lt hx.significand_lt (hy.normal hmin) hmin hlt h)
  · rw [← heq] at h'
    rcases lt_trichotomy x.significand y.significand with hlt | hsame | hgt
    · exact absurd h' (not_identifies_both_of_lt hlt h)
    · exact ⟨hsame, heq⟩
    · exact absurd h (not_identifies_both_of_lt hgt h')
  · have hmin := lt_of_le_of_lt hy.minExponent_le hgt
    exact absurd h
      (not_identifies_both_of_exponent_lt hy.significand_lt (hx.normal hmin) hmin hgt h')

/-! ## 2. The grids -/

/-- A step of the grid of `10^k` in units of `2^(e - 2)`, as a fraction: `up` units are `down`
    parts of a step. -/
def gridSteps (e k : Int) : Nat × Nat :=
  let (up, down) : Nat × Nat := scale 1 1 (e - 2)
  match k with
  | .ofNat k => (up, down * Nat.pow 10 k)
  | .negSucc k => (up * Nat.pow 10 (k + 1), down)

theorem gridSteps_spec (e k : Int) :
    0 < (gridSteps e k).1 ∧ 0 < (gridSteps e k).2 ∧
      ((gridSteps e k).2 : ℚ) * 2 ^ (e - 2) = (gridSteps e k).1 * 10 ^ k := by
  obtain ⟨hdown, hunit⟩ := scale_spec 1 Nat.one_pos (e - 2)
  have hposd : (0 : ℚ) < (scale 1 1 (e - 2)).2 := by exact_mod_cast hdown
  rw [Nat.cast_one, one_div_one, one_mul] at hunit
  have hposu : (0 : ℚ) < (scale 1 1 (e - 2)).1 := by
    have hpos := two_zpow_pos (e - 2)
    rw [← hunit, div_pos_iff_of_pos_right hposd] at hpos
    exact hpos
  have hup : 0 < (scale 1 1 (e - 2)).1 := by exact_mod_cast hposu
  rw [← hunit]
  cases k with
  | ofNat k =>
    refine ⟨hup, Nat.mul_pos hdown (Nat.pow_pos (by decide)), ?_⟩
    simp only [gridSteps, Nat.pow_eq, Int.ofNat_eq_natCast, zpow_natCast]
    push_cast
    field_simp
  | negSucc k =>
    refine ⟨Nat.mul_pos hup (Nat.pow_pos (by decide)), hdown, ?_⟩
    simp only [gridSteps, Nat.pow_eq, zpow_negSucc]
    push_cast
    field_simp

/-- Whether the point `g` of a grid lies between the midpoints. -/
def insideOnGrid (m : Nat) (e k : Int) (low high g : Nat) : Bool :=
  let (up, down) := gridSteps e k
  if m % 2 = 0 then low * up ≤ g * down && g * down ≤ high * up
  else low * up < g * down && g * down < high * up

theorem onGrid?_eq (m : Nat) (e k : Int) (low high : Nat) :
    onGrid? m e k low high =
      [divRoundEven (4 * m * (gridSteps e k).1) (gridSteps e k).2,
        4 * m * (gridSteps e k).1 / (gridSteps e k).2,
        4 * m * (gridSteps e k).1 / (gridSteps e k).2 + 1].find?
          (insideOnGrid m e k low high) := by
  cases k <;> rfl

theorem le_grid_iff {e k : Int} {n g : Nat} :
    n * (gridSteps e k).1 ≤ g * (gridSteps e k).2 ↔
      (n : ℚ) * 2 ^ (e - 2) ≤ g * 10 ^ k := by
  obtain ⟨hup, _, hstep⟩ := gridSteps_spec e k
  have hposu : (0 : ℚ) < (gridSteps e k).1 := by exact_mod_cast hup
  have hunit := two_zpow_pos (e - 2)
  have hscaled : (g : ℚ) * (gridSteps e k).2 * 2 ^ (e - 2) = g * 10 ^ k * (gridSteps e k).1 := by
    rw [mul_assoc, hstep]
    ring
  rw [← Nat.cast_le (α := ℚ), Nat.cast_mul, Nat.cast_mul, ← mul_le_mul_iff_left₀ hunit, hscaled,
    mul_right_comm, mul_le_mul_iff_left₀ hposu]

theorem grid_le_iff {e k : Int} {n g : Nat} :
    g * (gridSteps e k).2 ≤ n * (gridSteps e k).1 ↔
      (g : ℚ) * 10 ^ k ≤ n * 2 ^ (e - 2) := by
  obtain ⟨hup, _, hstep⟩ := gridSteps_spec e k
  have hposu : (0 : ℚ) < (gridSteps e k).1 := by exact_mod_cast hup
  have hunit := two_zpow_pos (e - 2)
  have hscaled : (g : ℚ) * (gridSteps e k).2 * 2 ^ (e - 2) = g * 10 ^ k * (gridSteps e k).1 := by
    rw [mul_assoc, hstep]
    ring
  rw [← Nat.cast_le (α := ℚ), Nat.cast_mul, Nat.cast_mul, ← mul_le_mul_iff_left₀ hunit, hscaled,
    mul_right_comm (n : ℚ), mul_le_mul_iff_left₀ hposu]

/-- A point found on a grid identifies the number. -/
theorem identifies_of_onGrid? {m g : Nat} {e k : Int}
    (h : onGrid? m e k (midpoints m e).1 (midpoints m e).2 = some g) :
    Identifies (g * 10 ^ k) m e := by
  rw [onGrid?_eq] at h
  have hinside := List.find?_some h
  rw [Identifies]
  simp only [insideOnGrid] at hinside
  split
  · next heven =>
    rw [if_pos heven, Bool.and_eq_true, decide_eq_true_eq, decide_eq_true_eq] at hinside
    exact ⟨le_grid_iff.mp hinside.1, grid_le_iff.mp hinside.2⟩
  · next hodd =>
    rw [if_neg hodd, Bool.and_eq_true, decide_eq_true_eq, decide_eq_true_eq] at hinside
    refine ⟨lt_of_not_ge fun hge => ?_, lt_of_not_ge fun hge => ?_⟩
    · exact absurd (grid_le_iff.mpr hge) (not_le.mpr hinside.1)
    · exact absurd (le_grid_iff.mpr hge) (not_le.mpr hinside.2)

/-- **Seventeen digits are enough.**  On a grid whose step is at most `10^(-16)` of a number, the
    point nearest to the number lies between the midpoints. -/
theorem onGrid?_isSome {m : Nat} {e k : Int} (hpos : 0 < m) (hm : m < 2 ^ 53)
    (hstep : (10 : ℚ) ^ k * 10 ^ 16 ≤ m * 2 ^ e) :
    (onGrid? m e k (midpoints m e).1 (midpoints m e).2).isSome := by
  obtain ⟨hup, hdown, hgrid⟩ := gridSteps_spec e k
  rw [onGrid?_eq, List.find?_isSome]
  refine ⟨_, List.mem_cons_self, ?_⟩
  -- a step is at most four times `m / 10^16` units long
  have hfine : (gridSteps e k).2 * 10 ^ 16 ≤ 4 * m * (gridSteps e k).1 := by
    have hposu : (0 : ℚ) < (gridSteps e k).1 := by exact_mod_cast hup
    have hunit : (2 : ℚ) ^ e = 4 * 2 ^ (e - 2) := by
      rw [zpow_sub₀ (by norm_num)]
      ring
    have hscaled : ((gridSteps e k).2 : ℚ) * 10 ^ 16 * 2 ^ (e - 2) ≤
        4 * m * (gridSteps e k).1 * 2 ^ (e - 2) := by
      calc ((gridSteps e k).2 : ℚ) * 10 ^ 16 * 2 ^ (e - 2)
          = ((gridSteps e k).1 : ℚ) * (10 ^ k * 10 ^ 16) := by rw [mul_right_comm, hgrid]; ring
        _ ≤ ((gridSteps e k).1 : ℚ) * (m * 2 ^ e) := mul_le_mul_of_nonneg_left hstep hposu.le
        _ = 4 * m * (gridSteps e k).1 * 2 ^ (e - 2) := by rw [hunit]; ring
    exact_mod_cast le_of_mul_le_mul_right hscaled (two_zpow_pos _)
  obtain ⟨hbelow, habove⟩ := divRoundEven_near (4 * m * (gridSteps e k).1) hdown
  simp only [insideOnGrid]
  generalize gridSteps e k = steps at hup hfine hbelow habove ⊢
  obtain ⟨up, down⟩ := steps
  simp only at hup hfine hbelow habove ⊢
  generalize divRoundEven (4 * m * up) down * down = point at hbelow habove ⊢
  have hless : (midpoints m e).1 * up < point := by
    rw [mul_assoc] at hfine hbelow
    have hone : 1 * up ≤ m * up := Nat.mul_le_mul_right up hpos
    rw [midpoints]
    simp only [Nat.pow_eq]
    split
    · next hpower =>
      obtain ⟨rfl, _⟩ := hpower
      omega
    · have hbound : m * up ≤ 2 ^ 53 * up := Nat.mul_le_mul_right up hm.le
      rw [Nat.sub_mul, mul_assoc]
      omega
  have hmore : point < (midpoints m e).2 * up := by
    have hbound : m * up ≤ 2 ^ 53 * up := Nat.mul_le_mul_right up hm.le
    rw [(midpoints_bounds m e).2, Nat.add_mul, mul_assoc]
    rw [mul_assoc] at hfine habove
    omega
  split
  · rw [Bool.and_eq_true, decide_eq_true_eq, decide_eq_true_eq]
    exact ⟨hless.le, hmore.le⟩
  · rw [Bool.and_eq_true, decide_eq_true_eq, decide_eq_true_eq]
    exact ⟨hless, hmore⟩

/-! ## 3. The search -/

theorem log10From_le {num den : Nat} (hden : 0 < den) {fuel : Nat} {k : Int}
    (h : (10 : ℚ) ^ (k - fuel) ≤ num / den) : (10 : ℚ) ^ log10From num den fuel k ≤ num / den := by
  have hposd : (0 : ℚ) < den := by exact_mod_cast hden
  induction fuel generalizing k with
  | zero =>
    rw [log10From]
    simpa using h
  | succ fuel ih =>
    have hnext : (10 : ℚ) ^ log10From num den fuel (k - 1) ≤ num / den := by
      refine ih ?_
      have hexponent : k - 1 - (fuel : Int) = k - (fuel + 1 : Nat) := by
        push_cast
        ring
      rw [hexponent]
      exact h
    cases k with
    | ofNat k =>
      unfold log10From
      simp only [Nat.pow_eq]
      split
      · next hle =>
        rw [le_div_iff₀ hposd, Int.ofNat_eq_natCast, zpow_natCast, mul_comm]
        exact_mod_cast hle
      · exact hnext
    | negSucc k =>
      unfold log10From
      simp only [Nat.pow_eq]
      split
      · next hle =>
        rw [le_div_iff₀ hposd, zpow_negSucc, inv_mul_le_iff₀ (by positivity), mul_comm]
        exact_mod_cast hle
      · exact hnext

/-- Three below the decimal exponent that is estimated from the binary exponent `b`, the power of
    ten is at most the power of two. -/
def startsLow (b : Int) : Bool :=
  let t := b * 30103 / 100000 - 3
  decide (10 ^ t.toNat * 2 ^ (-b).toNat ≤ 2 ^ b.toNat * 10 ^ (-t).toNat)

theorem startsLow_of_range : ∀ i ∈ List.range 2098, startsLow ((i : Int) - 1074) = true := by
  decide +kernel

theorem zpow_eq_div (q : ℚ) (e : Int) : q ^ e = q ^ e.toNat / q ^ (-e).toNat := by
  rcases le_total 0 e with he | he
  · rw [Int.toNat_of_nonpos (by omega : -e ≤ 0), pow_zero, div_one, ← zpow_natCast,
      Int.toNat_of_nonneg he]
  · rw [Int.toNat_of_nonpos he, pow_zero, one_div, ← zpow_natCast,
      Int.toNat_of_nonneg (by omega : 0 ≤ -e), zpow_neg, inv_inv]

theorem pow_top_le {b : Int} (hlow : -1074 ≤ b) (hhigh : b < 1024) :
    (10 : ℚ) ^ (b * 30103 / 100000 - 3) ≤ 2 ^ b := by
  have hstarts : startsLow b = true := by
    have hrange := startsLow_of_range (b + 1074).toNat (List.mem_range.mpr (by omega))
    rwa [Int.toNat_of_nonneg (by omega), add_sub_cancel_right] at hrange
  simp only [startsLow, decide_eq_true_eq] at hstarts
  rw [zpow_eq_div 10, zpow_eq_div 2, div_le_div_iff₀ (by positivity) (by positivity)]
  exact_mod_cast hstarts

theorem fraction_eq (x : Binary64) :
    (x.fraction.1 : ℚ) / x.fraction.2 = x.significand * 2 ^ x.exponent := by
  have hscaled := (scale_spec x.significand Nat.one_pos x.exponent).2
  rw [Nat.cast_one, div_one] at hscaled
  exact hscaled

/-- **The search finds a decimal that identifies the number.** -/
theorem shortest_identifies {x : Binary64} (hx : x.Canonical) (hpos : 0 < x.significand) :
    Identifies x.shortest.value x.significand x.exponent := by
  have hfraction := x.fraction_eq
  have hden : 0 < x.fraction.2 := x.fraction_pos
  rw [shortest, if_neg hpos.ne']
  generalize x.fraction = f at hfraction hden
  obtain ⟨num, den⟩ := f
  simp only at hfraction hden ⊢
  have hmagnitude : (0 : ℚ) < num / den := by
    rw [hfraction]
    exact mul_pos (by exact_mod_cast hpos) (two_zpow_pos _)
  have hnum : 0 < num := by
    rw [div_pos_iff_of_pos_right (by exact_mod_cast hden)] at hmagnitude
    exact_mod_cast hmagnitude
  obtain ⟨hlog, hlog'⟩ := log2_spec hnum hden
  -- the binary exponent is in the range of the format
  have hlow : -1074 ≤ log2 num den := by
    have hle : (2 : ℚ) ^ minExponent < 2 ^ (log2 num den + 1) := by
      refine lt_of_le_of_lt ?_ hlog'
      rw [hfraction]
      calc (2 : ℚ) ^ minExponent ≤ 1 * 2 ^ x.exponent := by
            rw [one_mul]
            exact zpow_le_zpow_right₀ (by norm_num) hx.minExponent_le
        _ ≤ x.significand * 2 ^ x.exponent :=
            mul_le_mul_of_nonneg_right (by exact_mod_cast hpos) (two_zpow_pos _).le
    have hlt := (zpow_lt_zpow_iff_right₀ (by norm_num : (1 : ℚ) < 2)).mp hle
    have hmin : minExponent = -1074 := rfl
    omega
  have hhigh : log2 num den < 1024 := by
    have hlt : (2 : ℚ) ^ log2 num den < 2 ^ (1024 : Int) := by
      refine lt_of_le_of_lt hlog ?_
      rw [hfraction]
      calc (x.significand : ℚ) * 2 ^ x.exponent < 2 ^ 53 * 2 ^ x.exponent :=
            mul_lt_mul_of_pos_right (by exact_mod_cast hx.significand_lt) (two_zpow_pos _)
        _ ≤ 2 ^ 53 * 2 ^ maxExponent :=
            mul_le_mul_of_nonneg_left (zpow_le_zpow_right₀ (by norm_num) hx.exponent_le)
              (by positivity)
        _ = 2 ^ (1024 : Int) := by
            rw [← zpow_natCast, ← two_zpow_add]
            rfl
    exact (zpow_lt_zpow_iff_right₀ (by norm_num : (1 : ℚ) < 2)).mp hlt
  -- so the power of ten found is at most the number
  have htop : (10 : ℚ) ^ log10From num den 4 (log2 num den * 30103 / 100000 + 1) ≤ num / den := by
    refine log10From_le hden (le_trans ?_ hlog)
    have hexponent : log2 num den * 30103 / 100000 + 1 - ((4 : Nat) : Int) =
        log2 num den * 30103 / 100000 - 3 := by
      push_cast
      ring
    rw [hexponent]
    exact pow_top_le hlow hhigh
  generalize log10From num den 4 (log2 num den * 30103 / 100000 + 1) = k at htop ⊢
  have hfound : ((List.range 17).findSome? fun (n : Nat) =>
      (onGrid? x.significand x.exponent (k - n) (midpoints x.significand x.exponent).1
        (midpoints x.significand x.exponent).2).map
          fun d => (⟨d, k - n⟩ : Decimal)).isSome := by
    rw [List.findSome?_isSome_iff]
    refine ⟨16, by decide, ?_⟩
    rw [Option.isSome_map]
    refine onGrid?_isSome hpos hx.significand_lt ?_
    rw [← hfraction]
    calc (10 : ℚ) ^ (k - ((16 : Nat) : Int)) * 10 ^ 16 = 10 ^ k := by
          rw [zpow_sub₀ (by norm_num), zpow_natCast]
          field_simp
      _ ≤ num / den := htop
  obtain ⟨d, hd⟩ := Option.isSome_iff_exists.mp hfound
  rw [hd, Option.getD_some, Decimal.trim_value]
  obtain ⟨n, _, hn⟩ := List.exists_of_findSome?_eq_some hd
  obtain ⟨g, hg, rfl⟩ := Option.map_eq_some_iff.mp hn
  exact identifies_of_onGrid? hg

/-- A positive number has a positive shortest decimal. -/
theorem shortest_value_pos {x : Binary64} (hx : x.Canonical) (hpos : 0 < x.significand) :
    0 < x.shortest.value := by
  refine lt_of_lt_of_le ?_ (shortest_identifies hx hpos).le.1
  have hlower : 0 < (midpoints x.significand x.exponent).1 := by
    have hbound := (midpoints_bounds x.significand x.exponent).1
    omega
  exact mul_pos (by exact_mod_cast hlower) (two_zpow_pos _)

/-- **The shortest decimal and the sign determine a number.** -/
theorem eq_of_shortest_value_eq {x y : Binary64} (hx : x.Canonical) (hy : y.Canonical)
    (hsign : x.negative = y.negative) (h : x.shortest.value = y.shortest.value) : x = y := by
  have hzero {z : Binary64} (hz : z.significand = 0) : z.shortest.value = 0 := by
    rw [shortest, if_pos hz, Decimal.value, Nat.cast_zero, zero_mul]
  have hparts : x.significand = y.significand ∧ x.exponent = y.exponent := by
    rcases Nat.eq_zero_or_pos x.significand with hx0 | hxpos
    · rcases Nat.eq_zero_or_pos y.significand with hy0 | hypos
      · have hleast {z : Binary64} (hz : z.Canonical) (hz0 : z.significand = 0) :
            z.exponent = minExponent := by
          refine le_antisymm (not_lt.mp fun hlt => ?_) hz.minExponent_le
          have hnormal := hz.normal hlt
          rw [hz0] at hnormal
          exact absurd hnormal (by norm_num)
        exact ⟨hx0.trans hy0.symm, (hleast hx hx0).trans (hleast hy hy0).symm⟩
      · have hvalue := shortest_value_pos hy hypos
        rw [← h, hzero hx0] at hvalue
        exact absurd hvalue (lt_irrefl _)
    · rcases Nat.eq_zero_or_pos y.significand with hy0 | hypos
      · have hvalue := shortest_value_pos hx hxpos
        rw [h, hzero hy0] at hvalue
        exact absurd hvalue (lt_irrefl _)
      · have hidentifies := shortest_identifies hx hxpos
        rw [h] at hidentifies
        exact eq_of_identifies hx hy hidentifies (shortest_identifies hy hypos)
  cases x
  cases y
  simp only at hsign hparts
  rw [hsign, hparts.1, hparts.2]

end Binary64

end SchemaCatalog
