/-
  Patterns
  ========
  **Regular expressions, and where in a text they match.**

  Matching is a search for the ends of a match.  `Pattern.run p text s` lists
  the states that a match of `p` from the state `s` can end in, the
  preferred one first, and each only once.  The order matters to a pattern
  that keeps nothing but its first match (`atomic`); everything else looks
  only at which states there are.

  A state is a position and what the groups have matched.  Groups are
  remembered only for patterns that refer back to them, so that for all
  others the states at one position are one.
-/
import SchemaCatalog.Pattern.CharSet

namespace SchemaCatalog

/-- A condition on a position. -/
inductive Boundary where
  | textStart
  | textEnd
  | lineStart
  | lineEnd
  /-- A word starts or ends here. -/
  | word
  | notWord
deriving DecidableEq, Repr

def isWordAt (text : Array Char) (i : Nat) : Bool := (text[i]?.map isWordChar).getD false

/-- Whether a condition holds between the characters before and at `i`. -/
def Boundary.holds (text : Array Char) (i : Nat) : Boundary → Bool
  | .textStart => i = 0
  | .textEnd => i = text.size
  | .lineStart => i = 0 || text[i - 1]? = some '\n'
  | .lineEnd => i = text.size || text[i]? = some '\n'
  | .word => (i ≠ 0 && isWordAt text (i - 1)) != isWordAt text i
  | .notWord => (i ≠ 0 && isWordAt text (i - 1)) == isWordAt text i

inductive Pattern where
  | empty
  | char (s : CharSet)
  | boundary (b : Boundary)
  | seq (p q : Pattern)
  | choice (p q : Pattern)
  /-- At least `least` matches in a row, and no more than `most`. -/
  | rounds (greedy : Bool) (least : Nat) (most : Option Nat) (p : Pattern)
  | group (n : Nat) (p : Pattern)
  /-- The text that the group `n` has matched. -/
  | backreference (n : Nat)
  /-- A match of `p` starts here, or does not if `negated`. -/
  | ahead (negated : Bool) (p : Pattern)
  /-- A match of `p` starts `width` characters before, or does not if `negated`. -/
  | behind (negated : Bool) (width : Nat) (p : Pattern)
  /-- The first match of `p` and no other. -/
  | atomic (p : Pattern)
deriving Repr

namespace Pattern

/-! ### Construction -/

def seqAll : List Pattern → Pattern
  | [] => empty
  | [p] => p
  | p :: rest => seq p (seqAll rest)

/-- One of several patterns; of no pattern, the empty one. -/
def choiceAll : List Pattern → Pattern
  | [] => empty
  | [p] => p
  | p :: rest => choice p (choiceAll rest)

/-- The alternatives of a choice. -/
def alternatives : Pattern → List Pattern
  | choice p q => alternatives p ++ alternatives q
  | p => [p]

/-- How many characters every match has, if all have the same number. -/
def width? : Pattern → Option Nat
  | empty | boundary _ | ahead .. | behind .. => some 0
  | char _ => some 1
  | seq p q => do return (← width? p) + (← width? q)
  | choice p q => do
    let n ← width? p
    if (← width? q) = n then return n else none
  | rounds _ least most p => do
    let n ← width? p
    if most = some least then return least * n else none
  | group _ p | atomic p => width? p
  | backreference _ => none

/-- The groups that the pattern refers back to. -/
def referenced : Pattern → List Nat
  | backreference n => [n]
  | seq p q | choice p q => referenced p ++ referenced q
  | rounds _ _ _ p | group _ p | ahead _ p | behind _ _ p | atomic p => referenced p
  | empty | char _ | boundary _ => []

/-- The pattern with only the groups `l`. -/
def keepGroups (l : List Nat) : Pattern → Pattern
  | group n p => if n ∈ l then group n (keepGroups l p) else keepGroups l p
  | seq p q => seq (keepGroups l p) (keepGroups l q)
  | choice p q => choice (keepGroups l p) (keepGroups l q)
  | rounds greedy least most p => rounds greedy least most (keepGroups l p)
  | ahead negated p => ahead negated (keepGroups l p)
  | behind negated width p => behind negated width (keepGroups l p)
  | atomic p => atomic (keepGroups l p)
  | empty => empty
  | char s => char s
  | boundary b => boundary b
  | backreference n => backreference n

/-! ### States -/

structure State where
  position : Nat
  /-- What groups have matched last: number, start and length. -/
  groups : List (Nat × Nat × Nat) := []
deriving DecidableEq, Repr

namespace State

def advance (s : State) (n : Nat) : State := { s with position := s.position + n }

/-- Remembers that the group `n` has matched from `start` to here. -/
def record (s : State) (n start : Nat) : State :=
  { s with groups := (n, start, s.position - start) :: s.groups.filter (·.1 ≠ n) }

end State

/-! ### Rounds -/

/-- What a search for rounds has found: the states that it has been in, with the rounds that
    were left there, and the ends, latest first. -/
structure Found where
  seen : List (State × Nat) := []
  ends : List State := []

def Found.addEnd (f : Found) (s : State) : Found :=
  if s ∈ f.ends then f else { f with ends := s :: f.ends }

/-- Searches from `s`, with up to so many rounds left.  A round must advance.  A greedy search
    ends in a state only after all rounds from there. -/
def searchRounds (step : State → List State) (greedy : Bool) : Nat → Found → State → Found
  | 0, f, s => f.addEnd s
  | left + 1, f, s =>
    if f.seen.any fun (t, n) => t = s && left + 1 ≤ n then f
    else
      let f := { f with seen := (s, left + 1) :: f.seen }
      let f := if greedy then f else f.addEnd s
      let f := (step s).foldl
        (fun f t => if t.position ≤ s.position then f else searchRounds step greedy left f t) f
      if greedy then f.addEnd s else f

/-- The states after exactly `n` rounds. -/
def exactRounds (step : State → List State) : Nat → List State → List State
  | 0, l => l
  | n + 1, l => if l.isEmpty then [] else exactRounds step n (l.flatMap step).eraseDups

/-! ### Matching -/

/-- Whether `part` stands in a text at `i`. -/
def standsAt (text : Array Char) (i : Nat) (part : List Char) : Bool :=
  (part.zipIdx i).all fun (c, j) => text[j]? = some c

/-- Where a look from a state leads that has ended in certain states: back, with what the
    groups have matched. -/
def looked (negated : Bool) (s : State) (ends : List State) : List State :=
  if negated then (if ends.isEmpty then [s] else [])
  else (ends.map fun t => { t with position := s.position }).eraseDups

/-- The states that a match from a state can end in, the preferred first. -/
def run (text : Array Char) : Pattern → State → List State
  | empty, s => [s]
  | char set, s =>
    match text[s.position]? with
    | some c => if set.has c then [s.advance 1] else []
    | none => []
  | boundary b, s => if b.holds text s.position then [s] else []
  | seq p q, s => ((run text p s).flatMap (run text q)).eraseDups
  | choice p q, s => (run text p s ++ run text q s).eraseDups
  | rounds greedy least most p, s =>
    let left := match most with
      | some n => n - least
      | none => text.size
    let found := (exactRounds (run text p) least [s]).foldl
      (fun f t => searchRounds (run text p) greedy left f t) {}
    found.ends.reverse
  | group n p, s => (run text p s).map fun t => t.record n s.position
  | backreference n, s =>
    match s.groups.find? (·.1 = n) with
    | some (_, start, length) =>
      let part := (text.toList.drop start).take length
      if standsAt text s.position part then [s.advance length] else []
    | none => []
  | ahead negated p, s => looked negated s (run text p s)
  | behind negated width p, s =>
    looked negated s
      (if width ≤ s.position then run text p { s with position := s.position - width } else [])
  | atomic p, s => (run text p s).take 1

/-- Whether the pattern matches anywhere in a text. -/
def occursIn (p : Pattern) (text : String) : Bool :=
  let l := text.toList.toArray
  (List.range (l.size + 1)).any fun i => !(run l p ⟨i, []⟩).isEmpty

end Pattern

end SchemaCatalog
