/-
  Sets of characters in patterns
  ==============================
  **What a single place of a pattern may hold.**

  A set is built from ranges and from properties of characters by the
  operations on sets.  A set can be folded: then a character belongs to it
  if one that differs in case alone does.
-/
import SchemaCatalog.Text.CaseFold
import SchemaCatalog.Text.Category
import SchemaCatalog.Text.Script
import SchemaCatalog.Text.Whitespace

namespace SchemaCatalog

/-- A property of characters that a pattern can name. -/
inductive CharProperty where
  | any
  | ascii
  | alphabetic
  | lowercase
  | uppercase
  | whiteSpace
  | word
  | category (l : List Category)
  | script (s : Script)
deriving Repr

namespace CharProperty

def has : CharProperty → Char → Bool
  | any, _ => true
  | ascii, c => c.toNat < 0x80
  | alphabetic, c => isAlphabetic c
  | lowercase, c => isLowercase c
  | uppercase, c => isUppercase c
  | whiteSpace, c => Text.isWhitespace c
  | word, c => isWordChar c
  | category l, c => Category.ofChar c ∈ l
  | script s, c => Script.ofChar? c = some s

/-- A name without case, blanks and the marks between words, and without `is` in front. -/
def normalName (name : String) : String :=
  let l := (name.toList.filter fun c => c ≠ ' ' ∧ c ≠ '_' ∧ c ≠ '-').map Char.toLower
  String.ofList <| match l with
    | 'i' :: 's' :: c :: rest => c :: rest
    | l => l

def binaryNames : List (String × CharProperty) := [
  ("alphabetic", alphabetic), ("alpha", alphabetic), ("lowercase", lowercase),
  ("lower", lowercase), ("uppercase", uppercase), ("upper", uppercase),
  ("whitespace", whiteSpace), ("wspace", whiteSpace), ("space", whiteSpace)]

def category? (name : String) : Option CharProperty :=
  match name with
  | "any" => some any
  | "ascii" => some ascii
  | "assigned" => some (category (Category.names.map (·.1) |>.filter (· ≠ .cn)))
  | name => (Category.named? name).map category

/-- The property that a name stands for: a yes-or-no property, a general category or a
    script, the last two perhaps behind the name of what they are. -/
def named? (name : String) : Option CharProperty :=
  match (name.toList.splitOnP fun c => c = '=' || c = ':').map String.ofList with
  | [name] =>
    let name := normalName name
    (binaryNames.lookup name).or ((category? name).or ((Script.named? name).map script))
  | [property, value] =>
    match normalName property with
    | "gc" | "generalcategory" => category? (normalName value)
    | "sc" | "script" | "scx" | "scriptextensions" =>
      (Script.named? (normalName value)).map script
    | _ => none
  | _ => none

end CharProperty

inductive CharSet where
  | range (low high : Char)
  | property (p : CharProperty)
  | nothing
  | compl (s : CharSet)
  | union (s t : CharSet)
  | inter (s t : CharSet)
  /-- With every character all that differ from it in case alone. -/
  | folded (s : CharSet)
deriving Repr

namespace CharSet

def has : CharSet → Char → Bool
  | range low high, c => low ≤ c && c ≤ high
  | property p, c => p.has c
  | nothing, _ => false
  | compl s, c => !s.has c
  | union s t, c => s.has c || t.has c
  | inter s t, c => s.has c && t.has c
  | folded s, c => (caseVariants c).any s.has

def single (c : Char) : CharSet := range c c

/-- The characters of a list. -/
def ofChars (l : List Char) : CharSet := l.foldr (fun c s => union (single c) s) nothing

def sdiff (s t : CharSet) : CharSet := inter s (compl t)

/-- The characters that belong to exactly one of two sets. -/
def symmDiff (s t : CharSet) : CharSet := union (sdiff s t) (sdiff t s)

def digits : CharSet := property (.category [.nd])

def spaces : CharSet := property .whiteSpace

def words : CharSet := property .word

@[simp] theorem has_single (a c : Char) : (single a).has c = decide (a = c) := by
  simp only [single, has, ← Bool.decide_and, decide_eq_decide]
  exact ⟨fun h => Char.le_antisymm h.1 h.2, fun h => h ▸ ⟨Char.le_refl _, Char.le_refl _⟩⟩

theorem has_ofChars (l : List Char) (c : Char) : (ofChars l).has c = decide (c ∈ l) := by
  induction l with
  | nil => simp [ofChars, has]
  | cons a l ih =>
    rw [show ofChars (a :: l) = union (single a) (ofChars l) from rfl, has, ih, has_single]
    by_cases h : a = c
    · simp [h]
    · simp [h, Ne.symm h]

theorem has_symmDiff (s t : CharSet) (c : Char) :
    (symmDiff s t).has c = (s.has c != t.has c) := by
  cases hs : s.has c <;> cases ht : t.has c <;> simp [symmDiff, sdiff, has, hs, ht]

end CharSet

end SchemaCatalog
