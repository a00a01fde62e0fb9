/-
  Case folding
  ============
  **Characters that differ in case alone.**

  Two characters fold to the same one if they have the same lower-case form,
  or one of them is a variant of a lower-case letter that has no case of its
  own, such as the long `s` and the final sigma.
-/
import SchemaCatalog.Text.Lowercase

namespace SchemaCatalog

/-- Variants of lower-case letters, with the letters that they fold to. -/
def foldedVariants : List (Char × Char) := [
  ('\u00b5', '\u03bc'), ('\u017f', 's'), ('\u0345', '\u03b9'), ('\u03c2', '\u03c3'),
  ('\u03d0', '\u03b2'), ('\u03d1', '\u03b8'), ('\u03d5', '\u03c6'), ('\u03d6', '\u03c0'),
  ('\u03f0', '\u03ba'), ('\u03f1', '\u03c1'), ('\u03f5', '\u03b5'), ('\u1c80', '\u0432'),
  ('\u1c81', '\u0434'), ('\u1c82', '\u043e'), ('\u1c83', '\u0441'), ('\u1c84', '\u0442'),
  ('\u1c85', '\u0442'), ('\u1c86', '\u044a'), ('\u1c87', '\u0463'), ('\u1c88', '\ua64b'),
  ('\u1e9b', '\u1e61'), ('\u1fbe', '\u03b9')]

/-- The character that stands for all that differ from `c` in case alone. -/
def foldChar (c : Char) : Char :=
  match foldedVariants.find? fun (variant, _) => c = variant with
  | some (_, letter) => letter
  | none => if c.toNat < 0x80 then c.toLower else Char.ofNat (lowerCode c.toNat lowercaseRuns)

/-- The code points whose lower-case form is `code` by one of the runs. -/
def upperCodes (code : Nat) (runs : List CaseRun) : List Nat :=
  runs.filterMap fun r =>
    let upper := (code : Int) - r.offset
    if r.first ≤ upper ∧ upper ≤ r.last ∧ (upper - r.first) % r.step = 0 then some upper.toNat
    else none

/-- All characters that differ from `c` in case alone, and `c` itself. -/
def caseVariants (c : Char) : List Char :=
  let letter := foldChar c
  letter :: (upperCodes letter.toNat lowercaseRuns).map Char.ofNat ++
    (foldedVariants.filter fun (_, l) => l = letter).map (·.1)

end SchemaCatalog
