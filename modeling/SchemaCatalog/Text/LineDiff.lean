/-
  Line differences
  ================
  **A shortest list of deletions and insertions that turns one list of lines
  into another.**

  A difference is a list of blocks of lines that are kept, deleted or
  inserted: without the inserted blocks it is the old text, without the
  deleted blocks the new one.  The search is the linear-space divide and conquer of Myers:
  lines common to both ends are kept, a point in the middle of a shortest
  path splits the rest in two (`middle`), and both halves are solved
  alike (`solve`).

  Among the shortest differences the one with compact blocks is chosen
  afterwards.  Every deletion and then every insertion is moved up and down
  past its neighbours (`raise`, `lower`): it joins blocks of its own kind,
  passes blocks of the other, and an insertion rotates through kept lines
  as long as they agree with it.
-/
namespace SchemaCatalog.LineDiff

/-- A line of a text; the last line of a text has no line end and equals no line that has one. -/
structure Line where
  text : String
  isLast : Bool := false
deriving DecidableEq, Repr

/-- The lines of a text whose line ends are between them. -/
def Line.ofTexts : List String → List Line
  | [] => []
  | [t] => [⟨t, true⟩]
  | t :: rest => ⟨t, false⟩ :: ofTexts rest

inductive Tag where
  | keep
  | delete
  | insert
deriving DecidableEq, Repr

/-- Lines that are treated alike. -/
structure Block where
  tag : Tag
  lines : List Line
deriving DecidableEq, Repr

/-- The old text that a difference starts from. -/
def oldLines (blocks : List Block) : List Line :=
  (blocks.filter (·.tag ≠ .insert)).flatMap (·.lines)

/-- The new text that a difference leads to. -/
def newLines (blocks : List Block) : List Line :=
  (blocks.filter (·.tag ≠ .delete)).flatMap (·.lines)

/-- A block, unless it would be empty. -/
def block (tag : Tag) (lines : List Line) : List Block :=
  if lines.isEmpty then [] else [⟨tag, lines⟩]

/-- The number of leading elements that two lists have in common. -/
def commonLength : List Line → List Line → Nat
  | a :: l, b :: m => if a = b then commonLength l m + 1 else 0
  | _, _ => 0

/-! ### The middle of a shortest path -/

/-- The number of lines that agree from the positions `i` and `j` on. -/
def agreeFrom (old new : Array Line) : Nat → Nat → Nat → Nat
  | 0, _, _ => 0
  | fuel + 1, i, j =>
    match old[i]?, new[j]? with
    | some a, some b => if a = b then agreeFrom old new fuel (i + 1) (j + 1) + 1 else 0
    | _, _ => 0

/-- How far paths reach on each diagonal from `-size` to `size`. -/
structure Reach where
  size : Nat
  values : Array Nat

namespace Reach

def empty (size : Nat) : Reach := ⟨size, Array.replicate (2 * size + 1) 0⟩

def get (r : Reach) (k : Int) : Nat := r.values.getD (k + r.size).toNat 0

def set (r : Reach) (k : Int) (x : Nat) : Reach :=
  { r with values := r.values.setIfInBounds (k + r.size).toNat x }

/-- Where a path with `d` changes arrives on the diagonal `k`, before it follows kept lines. -/
def arrive (r : Reach) (d : Nat) (k : Int) : Nat :=
  if k = -d ∨ (k ≠ d ∧ r.get (k - 1) < r.get (k + 1)) then r.get (k + 1) else r.get (k - 1) + 1

end Reach

/-- The diagonals of paths with `d` changes: `d, d - 2, …, -d`. -/
def diagonals (d : Nat) : List Int := (List.range (d + 1)).map fun (i : Nat) => (d : Int) - 2 * i

/-- One round in one direction.  `here` is what the round extends, `there` the reach from
    the other end; `old` and `new` are read from this end.  A path that meets one from the other end
    gives the answer: where it arrived, and where it left off. -/
def extendPaths (old new : Array Line) (here there : Reach) (delta : Int) (d : Nat)
    (mayMeet : Int → Bool) : List Int → Except ((Nat × Int) × (Nat × Int)) Reach
  | [] => .ok here
  | k :: rest =>
    let x := here.arrive d k
    let y : Int := x - k
    let run := if x < old.size ∧ 0 ≤ y ∧ y < new.size then
      agreeFrom old new old.size x y.toNat else 0
    let here := here.set k (x + run)
    if mayMeet k ∧ old.size ≤ x + run + there.get (delta - k) then
      .error ((x, y), (x + run, y + run))
    else extendPaths old new here there delta d mayMeet rest

/-- Rounds with `d`, `d + 1`, … changes, forward and backward in turn, `fuel` at most. -/
def meet (old new oldBack newBack : Array Line) (delta : Int) :
    Nat → Nat → Reach → Reach → Option (Nat × Nat)
  | 0, _, _, _ => none
  | fuel + 1, d, forward, backward =>
    let odd := delta % 2 ≠ 0
    match extendPaths old new forward backward delta d
        (fun k => odd && decide ((k - delta).natAbs + 1 ≤ d)) (diagonals d) with
    | .error ((x, y), _) => some (x, y.toNat)
    | .ok forward =>
      match extendPaths oldBack newBack backward forward delta d
          (fun k => !odd && decide ((k - delta).natAbs ≤ d)) (diagonals d) with
      | .error (_, (x, y)) => some (old.size - x, (new.size - y).toNat)
      | .ok backward => meet old new oldBack newBack delta fuel (d + 1) forward backward

/-- A point on a shortest path, where the forward and the backward search meet. -/
def middle (old new : List Line) : Option (Nat × Nat) :=
  let n := old.length
  let m := new.length
  let rounds := (n + m + 1) / 2 + 1
  meet old.toArray new.toArray old.reverse.toArray new.reverse.toArray (n - m) rounds 0
    (.empty (rounds + 1)) (.empty (rounds + 1))

/-! ### Divide and conquer -/

/-- A difference of two texts; each division makes both halves smaller, so their total
    length bounds how often the texts are divided. -/
def solve : Nat → List Line → List Line → List Block
  | 0, old, new => block .delete old ++ block .insert new
  | fuel + 1, old, new =>
    let p := commonLength old new
    let start := old.take p
    let old := old.drop p
    let new := new.drop p
    let s := commonLength old.reverse new.reverse
    let stop := old.drop (old.length - s)
    let old := old.take (old.length - s)
    let new := new.take (new.length - s)
    let inner :=
      if old.isEmpty ∨ new.isEmpty then block .delete old ++ block .insert new
      else
        match middle old new with
        | none => block .delete old ++ block .insert new
        | some (x, y) =>
          solve fuel (old.take x) (new.take y) ++ solve fuel (old.drop x) (new.drop y)
    block .keep start ++ inner ++ block .keep stop

/-! ### Compact blocks -/

/-- A difference seen from one of its blocks; the blocks before it stand latest first. -/
structure Focus where
  before : List Block
  here : Block
  after : List Block

/-- Puts kept lines in front of a list of blocks, joining a kept block there. -/
def keepBefore (lines : List Line) : List Block → List Block
  | ⟨.keep, ls⟩ :: rest => ⟨.keep, lines ++ ls⟩ :: rest
  | rest => ⟨.keep, lines⟩ :: rest

/-- The same for a list of blocks that stands latest first. -/
def keepAfter (lines : List Line) : List Block → List Block
  | ⟨.keep, ls⟩ :: rest => ⟨.keep, ls ++ lines⟩ :: rest
  | rest => ⟨.keep, lines⟩ :: rest

/-- Moves a changed block up as far as it goes. -/
def raise : Nat → Focus → Focus
  | 0, f => f
  | fuel + 1, f =>
    match f.before with
    | [] => f
    | q :: before =>
      if q.tag = .keep then
        let k := if f.here.tag = .insert
          then commonLength q.lines.reverse f.here.lines.reverse else 0
        if 0 < k then
          -- the insertion rotates through the last `k` kept lines
          let moved := q.lines.drop (q.lines.length - k)
          let kept := q.lines.take (q.lines.length - k)
          let here : Block :=
            ⟨.insert, moved ++ f.here.lines.take (f.here.lines.length - k)⟩
          raise fuel ⟨block .keep kept ++ before, here, keepBefore moved f.after⟩
        else if q.lines.isEmpty then raise fuel { f with before := before }
        else f
      else if q.tag = f.here.tag then
        raise fuel ⟨before, ⟨q.tag, q.lines ++ f.here.lines⟩, f.after⟩
      else raise fuel ⟨before, f.here, q :: f.after⟩

/-- Moves a changed block down as far as it goes. -/
def lower : Nat → Focus → Focus
  | 0, f => f
  | fuel + 1, f =>
    match f.after with
    | [] => f
    | q :: after =>
      if q.tag = .keep then
        let k := if f.here.tag = .insert then commonLength q.lines f.here.lines else 0
        if 0 < k then
          -- the insertion rotates through the first `k` kept lines
          let moved := q.lines.take k
          let here : Block := ⟨.insert, f.here.lines.drop k ++ moved⟩
          lower fuel ⟨keepAfter moved f.before, here, block .keep (q.lines.drop k) ++ after⟩
        else if q.lines.isEmpty then lower fuel { f with after := after }
        else f
      else if q.tag = f.here.tag then
        lower fuel ⟨f.before, ⟨q.tag, f.here.lines ++ q.lines⟩, after⟩
      else lower fuel ⟨q :: f.before, f.here, after⟩

/-- Blocks and lines together, which every move to one side makes fewer on that side. -/
def weight (blocks : List Block) : Nat := blocks.foldl (fun n b => n + b.lines.length + 1) 0

/-- Moves every block of one tag, from the first to the last. -/
def settle (tag : Tag) : Nat → List Block → List Block → List Block
  | 0, before, after => before.reverse ++ after
  | _ + 1, before, [] => before.reverse
  | fuel + 1, before, b :: after =>
    if b.tag = tag then
      let f := raise (weight before) ⟨before, b, after⟩
      let f := lower (weight f.after) f
      settle tag fuel (f.here :: f.before) f.after
    else settle tag fuel (b :: before) after

/-- The difference with its deletions and then its insertions in compact blocks. -/
def compact (blocks : List Block) : List Block :=
  -- no block is passed more often than there are blocks and lines
  let bound := (weight blocks + 1) * (weight blocks + 1)
  settle .insert bound [] (settle .delete bound [] blocks)

/-! ### The text of a difference -/

/-- A line with what happens to it. -/
structure Change where
  tag : Tag
  line : Line
deriving DecidableEq, Repr

/-- The changes one by one; between kept lines the deletions come before the insertions. -/
def changes : List Line → List Line → List Block → List Change
  | deleted, inserted, [] =>
    deleted.map (Change.mk .delete) ++ inserted.map (Change.mk .insert)
  | deleted, inserted, b :: rest =>
    match b.tag with
    | .delete => changes (deleted ++ b.lines) inserted rest
    | .insert => changes deleted (inserted ++ b.lines) rest
    | .keep =>
      deleted.map (Change.mk .delete) ++ inserted.map (Change.mk .insert) ++
        b.lines.map (Change.mk .keep) ++ changes [] [] rest

def Change.text (c : Change) : String :=
  (match c.tag with
    | .keep => " "
    | .delete => "-"
    | .insert => "+") ++ c.line.text ++ "\n"

/-- The changes that lead from one text to another. -/
def diff (old new : List Line) : List Change :=
  changes [] [] (compact (solve (old.length + new.length + 1) old new))

/-- The changes between two texts, given as lines, one marked line for each. -/
def diffText (old new : List String) : String :=
  String.join ((diff (Line.ofTexts old) (Line.ofTexts new)).map Change.text)

end SchemaCatalog.LineDiff
