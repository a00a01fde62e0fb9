/-
  Reading patterns
  ================
  **The pattern that a text stands for, if it is one.**

  A pattern is a choice of branches, a branch is a row of pieces, and a
  piece is an atom, perhaps with a mark for how often it may occur.  An atom
  is a character, a class of characters, a condition, or a group.  Options
  change what the rest of a text means: whether case counts, what the dot
  and the marks for the ends of a line stand for, whether marks are greedy,
  and whether blanks and comments may stand between the parts.  An option
  set inside a group stays set behind it, unless the group is for options
  alone.

  `Pattern.read` reads a text as it stands.  `Pattern.readPlain` reads it as
  schemas mean it: there the classes that a letter stands for hold
  characters of ASCII alone, some blanks aside.
-/
import SchemaCatalog.Pattern.Basic
import SchemaCatalog.Pattern.ClassReader

namespace SchemaCatalog.Pattern

/-- The options that hold at a place of a pattern. -/
structure Options where
  /-- Case does not count. -/
  foldCase : Bool := false
  /-- `^` and `$` stand for the ends of every line. -/
  lines : Bool := false
  /-- The dot stands for a line break too. -/
  dotAll : Bool := false
  /-- Marks are not greedy unless a `?` follows. -/
  reluctant : Bool := false
  /-- Blanks and comments count for nothing. -/
  spaced : Bool := false
deriving DecidableEq, Repr

/-- How far a text has been read. -/
structure Reading where
  rest : List Char
  options : Options := {}
  /-- The number of groups that have been opened. -/
  groups : Nat := 0
  names : List (String × Nat) := []
  /-- Whether a group has been referred to by its number. -/
  numbered : Bool := false

abbrev ReaderM := StateT Reading Option

/-! ### Blanks -/

/-- The text behind a comment in parentheses, or `none` if it does not end. -/
def behindComment? : List Char → Option (List Char)
  | ')' :: rest => some rest
  | '\\' :: _ :: rest => behindComment? rest
  | _ :: rest => behindComment? rest
  | [] => none

/-- Skips comments, and blanks if these count for nothing.  `fuel` bounds the length of the
    text. -/
def skipBlanks? (spaced : Bool) : Nat → List Char → Option (List Char)
  | 0, l => some l
  | fuel + 1, l =>
    match l with
    | '(' :: '?' :: '#' :: rest => do skipBlanks? spaced fuel (← behindComment? rest)
    | '#' :: rest =>
      if spaced then skipBlanks? spaced fuel ((rest.dropWhile (· ≠ '\n')).drop 1) else some l
    | c :: rest =>
      if spaced ∧ c ∈ [' ', '\t', '\n', '\r'] then skipBlanks? spaced fuel rest else some l
    | [] => some []

/-- Skips what counts for nothing, and gives the text behind it. -/
def restBehindBlanks : ReaderM (List Char) := do
  let s ← get
  let rest ← skipBlanks? s.options.spaced (s.rest.length + 1) s.rest
  set { s with rest }
  return rest

def goTo (rest : List Char) : ReaderM Unit := modify fun s => { s with rest }

/-- Takes a character. -/
def expect (c : Char) : ReaderM Unit := do
  match (← get).rest with
  | d :: rest => if c = d then goTo rest else failure
  | [] => failure

/-! ### Marks for how often -/

/-- The digits that a text starts with as a number, and the text behind them. -/
def decimal? (l : List Char) : Option (Nat × List Char) :=
  match l.takeWhile Char.isDigit with
  | [] => none
  | digits =>
    some (digits.foldl (fun n c => 10 * n + (c.toNat - '0'.toNat)) 0, l.dropWhile Char.isDigit)

/-- The bounds between braces, behind the opening one. -/
def bounds? (spaced : Bool) (l : List Char) : Option (Nat × Option Nat × List Char) := do
  let skip (l : List Char) : Option (List Char) := skipBlanks? spaced (l.length + 1) l
  let l ← skip l
  let (least, l) ← match l with
    | ',' :: _ => some (0, l)
    | l => decimal? l
  match ← skip l with
  | '\x7d' :: rest => return (least, some least, rest)
  | ',' :: rest =>
    let l ← skip rest
    let (most, l) := match decimal? l with
      | some (most, l) => (some most, l)
      | none => (none, l)
    match ← skip l with
    | '\x7d' :: rest => return (least, most, rest)
    | _ => none
  | _ => none

/-- How often the atom before may occur.  Braces that hold no bounds are no mark. -/
def marks? (spaced : Bool) (l : List Char) : Option (Nat × Option Nat × List Char) :=
  match l with
  | '?' :: rest => some (0, some 1, rest)
  | '*' :: rest => some (0, none, rest)
  | '+' :: rest => some (1, none, rest)
  | '\x7b' :: rest => bounds? spaced rest
  | _ => none

/-- Whether a mark can follow: not behind nothing, and not behind a look at other text. -/
def isRepeatable : Pattern → Bool
  | empty | ahead .. | behind .. => false
  | _ => true

/-! ### Names and options -/

/-- A name in front of `close`. -/
def name? (close : Char) (l : List Char) : Option (String × List Char) :=
  let isNameChar (c : Char) : Bool := isAlphanumeric c || c = '_'
  match l.takeWhile isNameChar, l.dropWhile isNameChar with
  | [], _ => none
  | name, c :: rest => if c = close then some (String.ofList name, rest) else none
  | _, [] => none

/-- Opens a group, with a name or without. -/
def openGroup (name : Option String) : ReaderM Nat := do
  let n := (← get).groups + 1
  modify fun s => { s with
    groups := n
    names := (name.map fun name => (name, n)).toList ++ s.names }
  return n

/-- The group that a name, or a number in place of it, refers to. -/
def groupNamed (name : String) : ReaderM Pattern := do
  match (← get).names.lookup name with
  | some n => return backreference n
  | none =>
    match decimal? name.toList with
    | some (n, []) => return backreference n
    | _ => failure

/-- Options set to `on`. -/
def Options.put? (o : Options) (on : Bool) : Char → Option Options
  | 'i' => some { o with foldCase := on }
  | 'm' => some { o with lines := on }
  | 's' => some { o with dotAll := on }
  | 'U' => some { o with reluctant := on }
  | 'x' => some { o with spaced := on }
  | 'u' => if on then some o else none
  | _ => none

/-- Reads the letters of options up to the `)` or `:` behind them, and says which it is.
    `count` is how many characters there were before. -/
def readOptions (on : Bool) (count : Nat) : Nat → ReaderM Char
  | 0 => failure
  | fuel + 1 => do
    match ← restBehindBlanks with
    | '-' :: rest =>
      if ¬ on then failure
      goTo rest
      readOptions false (count + 1) fuel
    | c :: rest =>
      if c = ')' ∨ c = ':' then
        if (c = ')' ∧ count = 0) ∨ (¬ on ∧ count = 1) then failure
        goTo rest
        return c
      else
        let options ← (← get).options.put? on c
        modify fun s => { s with options }
        goTo rest
        readOptions on (count + 1) fuel
    | [] => failure

/-! ### Atoms -/

/-- A single place of the pattern. -/
def place (fold : Bool) (s : CharSet) : Pattern := char (if fold then .folded s else s)

/-- The letters of escapes for conditions. -/
def conditions : List (Char × Pattern) := [
  ('A', boundary .textStart), ('z', boundary .textEnd), ('b', boundary .word),
  ('B', boundary .notWord), ('G', boundary .textStart), ('K', empty.group 0),
  ('Z', ahead false
    (seq (rounds true 0 none (char (.single '\n'))) (boundary .textEnd)))]

/-- An escape behind its backslash. -/
def readEscape (l : List Char) : ReaderM Pattern := do
  match l with
  | [] => failure
  | 'k' :: '<' :: rest =>
    let (name, rest) ← name? '>' rest
    goTo rest
    groupNamed name
  | 'k' :: _ => failure
  | c :: rest =>
    if c.isDigit then
      let (n, rest) ← decimal? l
      modify fun s => { s with numbered := true }
      goTo rest
      return backreference n
    match conditions.lookup c with
    | some p =>
      goTo rest
      return p
    | none =>
      let fold := (← get).options.foldCase
      let (e, rest) ← escapedChar? l
      goTo rest
      match e with
      | .literal c => return place fold (.single c)
      | .set s => return place (fold && c ≠ 'h' && c ≠ 'H') s

/-- A look at the text before.  Its alternatives may differ in width, but each must have one. -/
def lookBehind? (negated : Bool) (p : Pattern) : Option Pattern :=
  match width? p with
  | some width => some (behind negated width p)
  | none => do
    let looks ← (alternatives p).mapM fun p => (width? p).map fun width => behind false width p
    return ahead negated (choiceAll looks)

/-- What a group does with the pattern in it. -/
inductive GroupKind where
  | plain
  | numbered (n : Nat)
  | atomic
  | ahead (negated : Bool)
  | behind (negated : Bool)
deriving Repr

def GroupKind.apply? : GroupKind → Pattern → Option Pattern
  | plain, p => some p
  | numbered n, p => some (group n p)
  | atomic, p => some (.atomic p)
  | ahead negated, p => some (.ahead negated p)
  | behind negated, p => lookBehind? negated p

/-- The groups that may be inside each other. -/
def maxDepth : Nat := 63

/-! ### Grammar

Each call passes at least one character or goes one rule down; `fuel` bounds their number. -/

mutual

def readChoice (depth : Nat) : Nat → ReaderM Pattern
  | 0 => failure
  | fuel + 1 => do
    let first ← readBranch depth fuel []
    match ← restBehindBlanks with
    | '|' :: _ => return choiceAll (first :: (← readAlternatives depth fuel))
    | _ =>
      let s ← get
      if s.numbered ∧ s.names ≠ [] then failure
      return first

/-- The branches behind the first one. -/
def readAlternatives (depth : Nat) : Nat → ReaderM (List Pattern)
  | 0 => failure
  | fuel + 1 => do
    match ← restBehindBlanks with
    | '|' :: rest =>
      goTo rest
      let p ← readBranch depth fuel []
      return p :: (← readAlternatives depth fuel)
    | _ => return []

/-- The rest of a branch; `before` are the pieces before it, latest first. -/
def readBranch (depth : Nat) : Nat → List Pattern → ReaderM Pattern
  | 0, _ => failure
  | fuel + 1, before => do
    match ← restBehindBlanks with
    | [] | ')' :: _ | '|' :: _ => return seqAll before.reverse
    | _ =>
      let p ← readPiece depth fuel
      readBranch depth fuel (if p matches .empty then before else p :: before)

def readPiece (depth : Nat) : Nat → ReaderM Pattern
  | 0 => failure
  | fuel + 1 => do
    let p ← readAtom depth fuel
    let rest ← restBehindBlanks
    match marks? (← get).options.spaced rest with
    | none => return p
    | some (least, most, rest) =>
      if ¬ isRepeatable p ∨ most.any (· < least) then failure
      goTo rest
      let rest ← restBehindBlanks
      let (short, rest) := match rest with
        | '?' :: rest => (true, rest)
        | rest => (false, rest)
      let q := rounds (short == (← get).options.reluctant) least most p
      match rest with
      | '+' :: rest =>
        goTo rest
        return atomic q
      | rest =>
        goTo rest
        return q

def readAtom (depth : Nat) : Nat → ReaderM Pattern
  | 0 => failure
  | fuel + 1 => do
    let o := (← get).options
    match (← get).rest with
    | '.' :: rest =>
      goTo rest
      return char (if o.dotAll then .compl .nothing else .compl (.single '\n'))
    | '^' :: rest =>
      goTo rest
      return boundary (if o.lines then .lineStart else .textStart)
    | '$' :: rest =>
      goTo rest
      return boundary (if o.lines then .lineEnd else .textEnd)
    | '(' :: rest =>
      if maxDepth ≤ depth then failure
      goTo rest
      readGroup (depth + 1) fuel (← restBehindBlanks)
    | '\\' :: rest => readEscape rest
    | '[' :: rest =>
      let (s, rest) ← classSet? o.foldCase (2 * rest.length + 2) rest
      goTo rest
      return char s
    | c :: rest =>
      if c ∈ ['*', '+', '?'] then return empty
      goTo rest
      return place o.foldCase (.single c)
    | [] => return empty

/-- A group behind its opening parenthesis. -/
def readGroup (depth : Nat) : Nat → List Char → ReaderM Pattern
  | 0, _ => failure
  | fuel + 1, l => do
    let inside (kind : GroupKind) (rest : List Char) : ReaderM Pattern := do
      goTo rest
      let p ← readChoice depth fuel
      expect ')'
      kind.apply? p
    match l with
    | '?' :: '=' :: rest => inside (.ahead false) rest
    | '?' :: '!' :: rest => inside (.ahead true) rest
    | '?' :: '<' :: '=' :: rest => inside (.behind false) rest
    | '?' :: '<' :: '!' :: rest => inside (.behind true) rest
    | '?' :: '>' :: rest => inside .atomic rest
    | '?' :: '<' :: rest | '?' :: 'P' :: '<' :: rest =>
      let (name, rest) ← name? '>' rest
      inside (.numbered (← openGroup (some name))) rest
    | '?' :: 'P' :: '=' :: rest =>
      let (name, rest) ← name? ')' rest
      goTo rest
      groupNamed name
    | '?' :: rest =>
      goTo rest
      let before := (← get).options
      match ← readOptions true 0 (rest.length + 1) with
      | ':' =>
        let p ← inside .plain (← get).rest
        modify fun s => { s with options := before }
        return p
      | _ => return empty
    | rest => inside (.numbered (← openGroup none)) rest

end

/-- The pattern of a text as it stands. -/
def read (s : String) : Option Pattern := do
  let l := s.toList
  let (p, s) ← (readChoice 0 (8 * l.length + 8)).run { rest := l }
  let referenced := p.referenced
  if s.rest ≠ [] ∨ referenced.any (fun n => n = 0 ∨ s.groups < n) then none
  else return p.keepGroups referenced

/-! ### Plain classes -/

/-- Replaces `\c` and a letter by the control character that the letter stands for. -/
def withControls : List Char → List Char
  | '\\' :: 'c' :: c :: rest =>
    if c.isAlpha then Char.ofNat (c.toUpper.toNat - 64) :: withControls rest
    else '\\' :: 'c' :: withControls (c :: rest)
  | c :: rest => c :: withControls rest
  | [] => []

def plainBlanks : String := " \t\n\r\x0b\x0c\u2003\ufeff\u2029\u00a0"

/-- The characters that a letter behind a backslash stands for. -/
def plainClass? : Char → Option String
  | 'd' => some "[0-9]"
  | 'D' => some "[^0-9]"
  | 'w' => some "[A-Za-z0-9_]"
  | 'W' => some "[^A-Za-z0-9_]"
  | 's' => some ("[" ++ plainBlanks ++ "]")
  | 'S' => some ("[^" ++ plainBlanks ++ "]")
  | _ => none

/-- Spells out the classes that a letter stands for. -/
def withPlainClasses : List Char → List Char
  | '\\' :: c :: rest =>
    ((plainClass? c).map String.toList).getD ['\\', c] ++ withPlainClasses rest
  | c :: rest => c :: withPlainClasses rest
  | [] => []

/-- The pattern of a text with plain classes. -/
def readPlain (s : String) : Option Pattern :=
  read (String.ofList (withPlainClasses (withControls s.toList)))

end SchemaCatalog.Pattern
