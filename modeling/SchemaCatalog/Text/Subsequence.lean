/-
  Subsequence scores
  ==================
  **How well a query matches a name that contains its characters in order.**

  A name matches when the characters of the query occur in it in order,
  letter case of ASCII aside; `positions?` are the leftmost such places.
  A match is worth more where characters begin a word, follow each other
  directly or agree in case, and less for every character passed over.

  The best alignment is found row by row, one row for each character of the
  query and one cell for each character of the name.  Two rows alternate: a
  new row overwrites the one before the last from the leftmost place of its
  character on, and what stands to the left of it there stays.
-/
namespace SchemaCatalog.Subsequence

/-- The letter in lower case, for ASCII letters. -/
def lower (c : Char) : Char := c.toLower

/-- The places of a query in a name, each the leftmost after the one before; `start` is the
    place of the first character of the name. -/
def positionsFrom? (start : Nat) : List Char → List Char → Option (List Nat)
  | [], _ => some []
  | _ :: _, [] => none
  | q :: query, c :: name =>
    if lower q = lower c then (positionsFrom? (start + 1) query name).map (start :: ·)
    else positionsFrom? (start + 1) (q :: query) name

def positions? (query name : List Char) : Option (List Nat) := positionsFrom? 0 query name

/-! ### What a place is worth -/

/-- The part that a character has in the structure of a name. -/
inductive Role where
  | boundary
  | separator
  | digit
  | capital
  | letter
deriving DecidableEq, Repr

def role (c : Char) : Role :=
  if c = '\x00' ∨ c ∈ [' ', '/', '\\', '|', '(', ')', '[', ']', '\x7b', '\x7d'] then .boundary
  else if ('!' ≤ c ∧ c ≤ '\'') ∨ ('*' ≤ c ∧ c ≤ '.') ∨ (':' ≤ c ∧ c ≤ '@') ∨ ('^' ≤ c ∧ c ≤ '\x60')
      ∨ c = '~' then .separator
  else if '0' ≤ c ∧ c ≤ '9' then .digit
  else if 'A' ≤ c ∧ c ≤ 'Z' then .capital
  else .letter

/-- What matching `current` is worth for its place behind `previous`. -/
def placeBonus (previous current : Char) : Int :=
  match role previous, role current with
  | .boundary, _ => 8
  | .separator, _ => 7
  | .letter, .capital | .digit, .capital => 6
  | _, _ => 0

/-- The characters of a name, each with the bonus of its place, which counts twice for the
    first. -/
def placesOf : List Char → List (Char × Int)
  | [] => []
  | first :: rest =>
    (first, 2 * placeBonus '\x00' first) ::
      ((first :: rest).zip rest).map fun (previous, c) => (c, placeBonus previous c)

/-! ### Rows -/

/-- The best values of the alignments that end at a character of the name. -/
structure Cell where
  /-- The best value if the character is matched. -/
  matched : Int
  /-- The best value if the character is passed over. -/
  passed : Int
  /-- The bonus that a matched run carries on. -/
  run : Int
deriving Repr

/-- The value of an alignment that is impossible. -/
def impossible : Int := -32768

/-- The cells of a row from one character on.  `left` is the new cell before that character.
    Each character comes with its bonus, the cell before it in the last row, and its own cell
    in the row that is overwritten. -/
def overwrite (q : Char) (left : Cell) : List ((Char × Int) × Cell × Cell) → List Cell
  | [] => [left]
  | ((c, bonus), diagonal, old) :: rest =>
    let passed := max (left.matched - 4) (left.passed - 1)
    if lower c = lower q then
      let run := max (max left.run bonus) 4
      let value := max (diagonal.matched + run) (diagonal.passed + bonus)
      let cell := ⟨value + (if c = q then 16 else 14), passed, old.run⟩
      { left with run } :: overwrite q cell rest
    else left :: overwrite q ⟨impossible, passed, 0⟩ rest

/-- The row for the character `q` of the query, whose leftmost place is `position`. -/
def nextRow (places : List (Char × Int)) (q : Char) (position : Nat) (last old : List Cell) :
    List Cell :=
  match old.drop position with
  | [] => old
  | left :: cells =>
    old.take position ++
      overwrite q left ((places.drop position).zip ((last.drop position).zip cells))

/-- The row for the last character of the query. -/
def finalRow (places : List (Char × Int)) (last old : List Cell) :
    List (Char × Nat) → List Cell
  | [] => last
  | (q, position) :: rest => finalRow places (nextRow places q position last old) last rest

/-- The value of the best alignment, or `none` if the name does not match. -/
def score? (query name : String) : Option Int := do
  let positions ← positions? query.toList name.toList
  match positions.getLast? with
  | none => return 0
  | some position =>
    let row (passed : Int) : List Cell :=
      List.replicate (name.length + 1) ⟨impossible, passed, 0⟩
    let cells := finalRow (placesOf name.toList) (row (-1)) (row impossible)
      (query.toList.zip positions)
    return ((cells.drop position).map Cell.matched).foldl max impossible

end SchemaCatalog.Subsequence
