/-
  Texts of numbers
  ================
  **A number can be told from its text.**

  A whole number is written with digits only; a binary64 number has a point
  or an exponent.  What a text with a point or an exponent stands for is a
  rational that can be read off (`spelledValue`), and that rational is the
  shortest decimal of the number, which identifies it.
-/
import SchemaCatalog.Json.Number
import SchemaCatalog.Proofs.Numeric.Shortest

namespace SchemaCatalog

/-! ## 1. Spellings -/

/-- The value of a list of decimal digits. -/
abbrev digitsValue (l : List Char) : Nat := Nat.ofDigitChars 10 l 0

/-- The spelling of a number with a point or an exponent, and the rational that it stands for. -/
inductive Spelling : List Char → ℚ → Prop where
  | positional {whole fraction : List Char} : whole ≠ [] →
      (∀ c ∈ whole ++ fraction, c.isDigit) →
      Spelling (whole ++ '.' :: fraction)
        (digitsValue (whole ++ fraction) * 10 ^ (-(fraction.length : Int)))
  | scientific {d sign : Char} {exponent : List Char} : d.isDigit → sign = '+' ∨ sign = '-' →
      (∀ c ∈ exponent, c.isDigit) →
      Spelling (d :: 'e' :: sign :: exponent)
        (digitsValue [d] *
          10 ^ (if sign = '-' then -(digitsValue exponent : Int) else digitsValue exponent))
  | scientificPoint {d sign : Char} {fraction exponent : List Char} :
      (∀ c ∈ d :: fraction, c.isDigit) → sign = '+' ∨ sign = '-' →
      (∀ c ∈ exponent, c.isDigit) →
      Spelling (d :: '.' :: fraction ++ 'e' :: sign :: exponent)
        (digitsValue (d :: fraction) *
          10 ^ ((if sign = '-' then -(digitsValue exponent : Int) else digitsValue exponent) -
            fraction.length))

/-- The characters before the first `c`, and those after it. -/
def splitAtChar (c : Char) (l : List Char) : List Char × List Char :=
  (l.takeWhile (· ≠ c), (l.dropWhile (· ≠ c)).drop 1)

theorem splitAtChar_of_head {c : Char} {before rest : List Char} (h : c ∉ before)
    (hrest : ∀ d, rest.head? = some d → d = c) :
    splitAtChar c (before ++ rest) = (before, rest.tail) := by
  have hall : ∀ d ∈ before, decide (d ≠ c) = true := by
    intro d hd
    rw [decide_eq_true_eq]
    rintro rfl
    exact h hd
  simp only [splitAtChar]
  rw [List.takeWhile_append_of_pos hall, List.dropWhile_append_of_pos hall]
  cases rest with
  | nil => simp
  | cons d rest => simp [hrest d rfl]

theorem splitAtChar_append {c : Char} {before after : List Char} (h : c ∉ before) :
    splitAtChar c (before ++ c :: after) = (before, after) :=
  splitAtChar_of_head h fun _ hd => (Option.some.inj hd).symm

theorem splitAtChar_of_not_mem {c : Char} {l : List Char} (h : c ∉ l) :
    splitAtChar c l = (l, []) := by
  have hsplit : splitAtChar c (l ++ []) = (l, []) := splitAtChar_of_head h nofun
  rwa [List.append_nil] at hsplit

/-- The value of an exponent with its sign. -/
def spelledExponent (l : List Char) : Int :=
  if l.head? = some '-' then -(digitsValue l.tail) else digitsValue l.tail

/-- The rational that a spelling stands for. -/
def spelledValue (l : List Char) : ℚ :=
  let (mantissa, exponent) := splitAtChar 'e' l
  let (whole, fraction) := splitAtChar '.' mantissa
  digitsValue (whole ++ fraction) * 10 ^ (spelledExponent exponent - fraction.length)

theorem not_mem_of_isDigit {c : Char} {l : List Char} (h : ∀ d ∈ l, d.isDigit)
    (hc : c.isDigit = false) : c ∉ l := by
  intro hmem
  rw [h c hmem] at hc
  cases hc

/-- **A spelling determines its value.** -/
theorem Spelling.value_eq {l : List Char} {v : ℚ} (h : Spelling l v) : spelledValue l = v := by
  cases h with
  | @positional whole fraction hne hdigits =>
    have he : 'e' ∉ whole ++ '.' :: fraction := by
      have hno := not_mem_of_isDigit (c := 'e') hdigits (by decide)
      simpa using hno
    have hpoint : '.' ∉ whole :=
      not_mem_of_isDigit (fun d hd => hdigits d (List.mem_append_left _ hd)) (by decide)
    simp only [spelledValue, splitAtChar_of_not_mem he, splitAtChar_append hpoint]
    simp [spelledExponent]
  | @scientific d sign exponent hd hsign hexponent =>
    have he : 'e' ∉ [d] := not_mem_of_isDigit (by simpa using hd) (by decide)
    have hpoint : '.' ∉ [d] := not_mem_of_isDigit (by simpa using hd) (by decide)
    have hsplit : d :: 'e' :: sign :: exponent = [d] ++ 'e' :: sign :: exponent := rfl
    rw [hsplit]
    simp only [spelledValue, splitAtChar_append he, splitAtChar_of_not_mem hpoint]
    simp [spelledExponent]
  | @scientificPoint d sign fraction exponent hdigits hsign hexponent =>
    have he : 'e' ∉ d :: '.' :: fraction := by
      have hno := not_mem_of_isDigit (c := 'e') hdigits (by decide)
      simpa using hno
    have hpoint : '.' ∉ [d] := not_mem_of_isDigit
      (fun c hc => hdigits c (List.mem_cons.mpr (Or.inl (List.mem_singleton.mp hc)))) (by decide)
    have hsplit : d :: '.' :: fraction = [d] ++ '.' :: fraction := rfl
    simp only [spelledValue, splitAtChar_append he]
    rw [hsplit, splitAtChar_append hpoint]
    simp [spelledExponent]

/-! ## 2. The spelling of a decimal -/

theorem isDigit_toDigits {n : Nat} : ∀ c ∈ Nat.toDigits 10 n, c.isDigit :=
  fun _ h => Nat.isDigit_of_mem_toDigits (by decide) (by decide) h

theorem isDigit_zeros {n : Nat} : ∀ c ∈ List.replicate n '0', c.isDigit := by
  intro c hc
  rw [List.eq_of_mem_replicate hc]
  decide

theorem isDigit_zero : ∀ c ∈ ['0'], c.isDigit := isDigit_zeros (n := 1)

theorem isDigit_append {l m : List Char} (hl : ∀ c ∈ l, c.isDigit) (hm : ∀ c ∈ m, c.isDigit) :
    ∀ c ∈ l ++ m, c.isDigit := by
  intro c hc
  exact (List.mem_append.mp hc).elim (hl c) (hm c)

theorem digitsValue_zeros_append (n : Nat) (l : List Char) :
    digitsValue (List.replicate n '0' ++ l) = digitsValue l := by
  rw [digitsValue, Nat.ofDigitChars_append, Nat.ofDigitChars_replicate_zero, Nat.mul_zero]

theorem digitsValue_append_zeros (n : Nat) (l : List Char) :
    digitsValue (l ++ List.replicate n '0') = 10 ^ n * digitsValue l := by
  rw [digitsValue, Nat.ofDigitChars_append, Nat.ofDigitChars_replicate_zero]

section

variable {ds : List Char} (hall : ∀ c ∈ ds, c.isDigit)
include hall

/-- Digits and zeros before the point. -/
theorem spelling_of_whole (hne : ds ≠ []) {e : Int} (he : 0 ≤ e) :
    Spelling (ds ++ List.replicate e.toNat '0' ++ ['.', '0']) (digitsValue ds * 10 ^ e) := by
  have hvalue : (digitsValue ds * 10 ^ e : ℚ) =
      digitsValue (ds ++ List.replicate e.toNat '0' ++ ['0']) * 10 ^ (-((1 : Nat) : Int)) := by
    have hlast : ds ++ List.replicate e.toNat '0' ++ ['0'] =
        ds ++ List.replicate (e.toNat + 1) '0' := by
      rw [List.append_assoc, ← List.replicate_succ']
    rw [hlast, digitsValue_append_zeros, ← Int.toNat_of_nonneg he]
    simp only [zpow_natCast, Int.toNat_natCast, zpow_neg]
    push_cast
    ring
  rw [hvalue]
  exact .positional (by simp [hne])
    (isDigit_append (isDigit_append hall isDigit_zeros) isDigit_zero)

/-- Digits on both sides of the point. -/
theorem spelling_of_split {k : Nat} (hpos : 0 < k) (hk : k ≤ ds.length) :
    Spelling (ds.take k ++ '.' :: ds.drop k)
      (digitsValue ds * 10 ^ (-((ds.length - k : Nat) : Int))) := by
  have hne : ds.take k ≠ [] := by
    rw [← List.length_pos_iff, List.length_take]
    omega
  have hspelling : Spelling (ds.take k ++ '.' :: ds.drop k)
      (digitsValue (ds.take k ++ ds.drop k) * 10 ^ (-((ds.drop k).length : Int))) :=
    .positional hne (by rw [List.take_append_drop]; exact hall)
  rwa [List.take_append_drop, List.length_drop] at hspelling

/-- Zeros and digits after the point. -/
theorem spelling_of_small (n : Nat) :
    Spelling ('0' :: '.' :: (List.replicate n '0' ++ ds))
      (digitsValue ds * 10 ^ (-((n + ds.length : Nat) : Int))) := by
  have hvalue : digitsValue ds = digitsValue (['0'] ++ (List.replicate n '0' ++ ds)) := by
    have hzeros : ['0'] ++ (List.replicate n '0' ++ ds) = List.replicate (n + 1) '0' ++ ds := by
      rw [List.replicate_succ]
      rfl
    rw [hzeros, digitsValue_zeros_append]
  have hlength : n + ds.length = (List.replicate n '0' ++ ds).length := by simp
  have hdigits : ∀ c ∈ ['0'] ++ (List.replicate n '0' ++ ds), c.isDigit :=
    isDigit_append isDigit_zero (isDigit_append isDigit_zeros hall)
  rw [hvalue, hlength]
  exact .positional (List.cons_ne_nil _ _) hdigits

end

/-- The mantissa of a text with an exponent. -/
def mantissaText : List Char → List Char
  | [] => []
  | [d] => [d]
  | d :: rest => d :: '.' :: rest

/-- The exponent of a text, with its sign. -/
def exponentText (lead : Int) : List Char :=
  (if lead < 0 then '-' else '+') :: Nat.toDigits 10 lead.natAbs

/-- A mantissa and an exponent. -/
theorem spelling_of_exponent {d : Char} {rest : List Char} (hall : ∀ c ∈ d :: rest, c.isDigit)
    (lead : Int) :
    Spelling (mantissaText (d :: rest) ++ 'e' :: exponentText lead)
      (digitsValue (d :: rest) * 10 ^ (lead - (rest.length : Int))) := by
  have hsign : (if lead < 0 then '-' else '+') = '+' ∨ (if lead < 0 then '-' else '+') = '-' := by
    split <;> simp
  have hlead : (if (if lead < 0 then '-' else '+') = '-' then
      -(digitsValue (Nat.toDigits 10 lead.natAbs) : Int)
      else digitsValue (Nat.toDigits 10 lead.natAbs)) = lead := by
    rw [digitsValue, Nat.ofDigitChars_ten_toDigits]
    by_cases hneg : lead < 0
    · rw [if_pos hneg, if_pos rfl]
      omega
    · rw [if_neg hneg, if_neg (by decide)]
      omega
  cases rest with
  | nil =>
    have hspelling := Spelling.scientific (hall d List.mem_cons_self) hsign
      (isDigit_toDigits (n := lead.natAbs))
    rw [hlead] at hspelling
    simpa [mantissaText, exponentText] using hspelling
  | cons c rest =>
    have hspelling := Spelling.scientificPoint hall hsign (isDigit_toDigits (n := lead.natAbs))
    rw [hlead] at hspelling
    exact hspelling

/-- **The text of a decimal spells its value.** -/
theorem render_spelling (x : Decimal) :
    Spelling (NumberLayout.json.render x).toList x.value := by
  have hvalue : x.value = digitsValue (Nat.toDigits 10 x.digits) * 10 ^ x.exponent := by
    rw [digitsValue, Nat.ofDigitChars_ten_toDigits, Decimal.value]
  have hall : ∀ c ∈ Nat.toDigits 10 x.digits, c.isDigit := isDigit_toDigits
  have hne : Nat.toDigits 10 x.digits ≠ [] := Nat.toDigits_ne_nil
  simp only [NumberLayout.render, Nat.repr_eq_ofList_toDigits, String.toList_ofList,
    String.length_ofList]
  generalize Nat.toDigits 10 x.digits = ds at hvalue hall hne ⊢
  generalize x.exponent = e at hvalue ⊢
  have hpos : 0 < ds.length := List.length_pos_iff.mpr hne
  split
  · next hzero =>
    have hvalue : x.value = digitsValue ['0'] * 10 ^ (0 : Int) := by
      rw [Decimal.value, hzero]
      simp [digitsValue, Nat.ofDigitChars]
    rw [hvalue]
    exact spelling_of_whole isDigit_zero (by decide) le_rfl
  · rw [hvalue]
    split
    · split
      · next he =>
        simp only [String.toList_append, String.toList_ofList]
        exact spelling_of_whole hall hne he
      · next he =>
        split
        · next hlead =>
          have hk : (e + ds.length - 1).toNat + 1 ≤ ds.length := by omega
          have hexponent : e = -((ds.length - ((e + ds.length - 1).toNat + 1) : Nat) : Int) := by
            omega
          simp only [String.toList_append, String.toList_ofList, List.splitAt_eq]
          have hspelling := spelling_of_split hall (Nat.succ_pos _) hk
          rw [← hexponent] at hspelling
          simpa using hspelling
        · next hlead =>
          have hexponent : e = -(((-(e + ds.length - 1) - 1).toNat + ds.length : Nat) : Int) := by
            omega
          have hspelling := spelling_of_small hall (-(e + ds.length - 1) - 1).toNat
          rw [← hexponent] at hspelling
          simpa using hspelling
    · obtain ⟨d, rest, rfl⟩ := List.exists_cons_of_ne_nil hne
      have hexponent : e = e + ((d :: rest).length : Int) - 1 - (rest.length : Int) := by
        rw [List.length_cons]
        push_cast
        ring
      have hspelling := spelling_of_exponent hall (e + ((d :: rest).length : Int) - 1)
      rw [← hexponent] at hspelling
      generalize e + ((d :: rest).length : Int) - 1 = lead at hspelling ⊢
      rw [exponentText] at hspelling
      by_cases hneg : lead < 0
      · rw [if_pos hneg] at hspelling ⊢
        cases rest <;> simpa [mantissaText] using hspelling
      · rw [if_neg hneg] at hspelling ⊢
        cases rest <;> simpa [mantissaText, NumberLayout.json] using hspelling

/-! ## 3. The texts of numbers -/

/-- A character that can stand in the text of a number. -/
def isNumeralChar (c : Char) : Bool := c.isDigit || c = '-' || c = '+' || c = '.' || c = 'e'

theorem isNumeralChar_of_isDigit {c : Char} (h : c.isDigit) : isNumeralChar c := by
  rw [isNumeralChar, h]
  rfl

theorem Spelling.chars {l : List Char} {v : ℚ} (h : Spelling l v) :
    ∀ c ∈ l, isNumeralChar c := by
  have hsigned {sign : Char} (hsign : sign = '+' ∨ sign = '-') : isNumeralChar sign := by
    rcases hsign with rfl | rfl <;> decide
  have hpoint : isNumeralChar '.' := by decide
  have hmark : isNumeralChar 'e' := by decide
  intro c hc
  cases h with
  | positional _ hdigits =>
    rcases List.mem_append.mp hc with hc | hc
    · exact isNumeralChar_of_isDigit (hdigits c (List.mem_append_left _ hc))
    · rcases List.mem_cons.mp hc with rfl | hc
      · exact hpoint
      · exact isNumeralChar_of_isDigit (hdigits c (List.mem_append_right _ hc))
  | scientific hd hsign hexponent =>
    simp only [List.mem_cons] at hc
    rcases hc with rfl | rfl | rfl | hc
    · exact isNumeralChar_of_isDigit hd
    · exact hmark
    · exact hsigned hsign
    · exact isNumeralChar_of_isDigit (hexponent c hc)
  | scientificPoint hdigits hsign hexponent =>
    simp only [List.cons_append, List.mem_cons, List.mem_append] at hc
    rcases hc with rfl | rfl | hc | rfl | rfl | hc
    · exact isNumeralChar_of_isDigit (hdigits _ List.mem_cons_self)
    · exact hpoint
    · exact isNumeralChar_of_isDigit (hdigits c (List.mem_cons_of_mem _ hc))
    · exact hmark
    · exact hsigned hsign
    · exact isNumeralChar_of_isDigit (hexponent c hc)

theorem Spelling.head {l : List Char} {v : ℚ} (h : Spelling l v) :
    ∃ d rest, l = d :: rest ∧ d.isDigit := by
  cases h with
  | @positional whole fraction hne hdigits =>
    obtain ⟨d, rest, rfl⟩ := List.exists_cons_of_ne_nil hne
    exact ⟨d, _, rfl, hdigits d (List.mem_append_left _ List.mem_cons_self)⟩
  | scientific hd _ _ => exact ⟨_, _, rfl, hd⟩
  | scientificPoint hdigits _ _ => exact ⟨_, _, rfl, hdigits _ List.mem_cons_self⟩

/-- A spelling is not the text of a whole number. -/
theorem Spelling.point_or_mark {l : List Char} {v : ℚ} (h : Spelling l v) :
    ∃ c ∈ l, c.isDigit = false := by
  cases h with
  | positional _ _ => exact ⟨'.', by simp, by decide⟩
  | scientific _ _ _ => exact ⟨'e', by simp, by decide⟩
  | scientificPoint _ _ _ => exact ⟨'.', by simp, by decide⟩

/-- A whole number, or a binary64 number in canonical form. -/
def Number.Canonical : Number → Prop
  | .int _ => True
  | .float x => x.Canonical

/-- The characters of a text with a sign. -/
def signedChars : Bool → List Char → List Char
  | true, l => '-' :: l
  | false, l => l

theorem signed_toList (negative : Bool) (s : String) :
    ((if negative then "-" else "") ++ s).toList = signedChars negative s.toList := by
  rw [String.toList_append]
  cases negative <;> rfl

theorem signedChars_cancel {a b : Bool} {l m : List Char}
    (hl : ∃ d rest, l = d :: rest ∧ d.isDigit) (hm : ∃ d rest, m = d :: rest ∧ d.isDigit)
    (h : signedChars a l = signedChars b m) : a = b ∧ l = m := by
  obtain ⟨d, rest, rfl, hd⟩ := hl
  obtain ⟨d', rest', rfl, hd'⟩ := hm
  have hminus : Char.isDigit '-' = false := by decide
  cases a <;> cases b
  · exact ⟨rfl, h⟩
  · have hhead : d = '-' := (List.cons.inj h).1
    rw [hhead, hminus] at hd
    cases hd
  · have hhead : '-' = d' := (List.cons.inj h).1
    rw [← hhead, hminus] at hd'
    cases hd'
  · exact ⟨rfl, (List.cons.inj h).2⟩

/-- The digits of a number, with point and exponent, and whether it is negative. -/
def Number.unsigned : Number → Bool × List Char
  | .int n => (decide (n < 0), Nat.toDigits 10 n.natAbs)
  | .float x => (x.negative, (NumberLayout.json.render x.shortest).toList)

theorem Number.text_toList (n : Number) :
    n.text.toList = signedChars n.unsigned.1 n.unsigned.2 := by
  cases n with
  | int n =>
    have hsigned := signed_toList (decide (n < 0)) (Nat.repr n.natAbs)
    simp only [Nat.toList_repr, decide_eq_true_eq] at hsigned
    exact hsigned
  | float x => exact signed_toList x.negative (NumberLayout.json.render x.shortest)

theorem Number.unsigned_head (n : Number) : ∃ d rest, n.unsigned.2 = d :: rest ∧ d.isDigit := by
  cases n with
  | int n =>
    obtain ⟨d, rest, hcons⟩ := List.exists_cons_of_ne_nil
      (Nat.toDigits_ne_nil : Nat.toDigits 10 n.natAbs ≠ [])
    exact ⟨d, rest, hcons, isDigit_toDigits d (by rw [hcons]; exact List.mem_cons_self)⟩
  | float x => exact (render_spelling x.shortest).head

theorem Number.unsigned_chars (n : Number) : ∀ c ∈ n.unsigned.2, isNumeralChar c := by
  cases n with
  | int n => exact fun c hc => isNumeralChar_of_isDigit (isDigit_toDigits c hc)
  | float x => exact (render_spelling x.shortest).chars

theorem Number.text_chars (n : Number) : ∀ c ∈ n.text.toList, isNumeralChar c := by
  rw [Number.text_toList]
  cases n.unsigned.1
  · exact n.unsigned_chars
  · intro c hc
    rcases List.mem_cons.mp hc with rfl | hc
    · decide
    · exact n.unsigned_chars c hc

theorem Number.text_head (n : Number) :
    ∃ d rest, n.text.toList = d :: rest ∧ (d.isDigit ∨ d = '-') := by
  obtain ⟨d, rest, hcons, hd⟩ := n.unsigned_head
  rw [Number.text_toList, hcons]
  cases n.unsigned.1
  · exact ⟨d, rest, rfl, Or.inl hd⟩
  · exact ⟨'-', _, rfl, Or.inr rfl⟩

/-- **Different numbers have different texts.** -/
theorem Number.eq_of_text_eq {m n : Number} (hm : m.Canonical) (hn : n.Canonical)
    (h : m.text = n.text) : m = n := by
  have hchars : signedChars m.unsigned.1 m.unsigned.2 =
      signedChars n.unsigned.1 n.unsigned.2 := by
    rw [← m.text_toList, ← n.text_toList, h]
  obtain ⟨hsign, hdigits⟩ := signedChars_cancel m.unsigned_head n.unsigned_head hchars
  have hmixed (i : Int) (x : Binary64) :
      Nat.toDigits 10 i.natAbs ≠ (NumberLayout.json.render x.shortest).toList := by
    intro heq
    obtain ⟨c, hc, hno⟩ := (render_spelling x.shortest).point_or_mark
    rw [← heq] at hc
    rw [isDigit_toDigits c hc] at hno
    cases hno
  cases m with
  | int i =>
    cases n with
    | int j =>
      have hvalue : digitsValue (Nat.toDigits 10 i.natAbs) =
          digitsValue (Nat.toDigits 10 j.natAbs) := congrArg digitsValue hdigits
      rw [digitsValue, digitsValue, Nat.ofDigitChars_ten_toDigits,
        Nat.ofDigitChars_ten_toDigits] at hvalue
      have hnegative : i < 0 ↔ j < 0 := decide_eq_decide.mp hsign
      have heq : i = j := by omega
      rw [heq]
    | float y => exact absurd hdigits (hmixed i y)
  | float x =>
    cases n with
    | int j => exact absurd hdigits.symm (hmixed j x)
    | float y =>
      have hvalue : x.shortest.value = y.shortest.value := by
        rw [← (render_spelling x.shortest).value_eq, ← (render_spelling y.shortest).value_eq]
        exact congrArg spelledValue hdigits
      rw [Binary64.eq_of_shortest_value_eq hm hn hsign hvalue]

end SchemaCatalog
