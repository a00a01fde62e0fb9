/-
  Faults in texts
  ===============
  **What is wrong with a text, and where.**

  A reader that fails leaves the text from the fault on, so that a place
  can be given as line and column.
-/
namespace SchemaCatalog

structure TextFault where
  message : String
  rest : List Char
deriving Repr

/-- The line and the column, counted from one, of the character behind the first `n` ones. -/
def placeIn (l : List Char) (n : Nat) : Nat × Nat :=
  let passed := l.take n
  (passed.count '\n' + 1, (passed.reverse.takeWhile (· ≠ '\n')).length + 1)

/-- The place of a fault in the text `l`. -/
def TextFault.place (f : TextFault) (l : List Char) : Nat × Nat :=
  placeIn l (l.length - f.rest.length)

end SchemaCatalog
