/-
  YAML scalars
  ============
  **The lines of a YAML document, and the texts in them.**

  A line is its indentation and what follows.  A quoted text may go on over
  several lines, which are folded: a line break counts as a space, and each
  blank line as a line break.  A text without quotes is a flag, a number or
  nothing where it looks like one.
-/
import SchemaCatalog.Config.Datum

namespace SchemaCatalog.Yaml

/-- A line: how many spaces are in front of it, and the text behind them. -/
structure Line where
  indent : Nat
  text : List Char
deriving Repr

def Line.ofText (l : List Char) : Line :=
  let l := if l.getLast? = some '\r' then l.dropLast else l
  ⟨(l.takeWhile (· = ' ')).length, l.dropWhile (· = ' ')⟩

def Line.ofDocument (s : String) : List Line := (s.toList.splitOn '\n').map Line.ofText

/-- Whether a line has nothing but perhaps a comment. -/
def Line.isEmpty (l : Line) : Bool :=
  match l.text.dropWhile (· = '\t') with
  | [] | '#' :: _ => true
  | _ => false

def skipEmpty (l : List Line) : List Line := l.dropWhile Line.isEmpty

def isBlank (c : Char) : Bool := c = ' ' || c = '\t'

def trimEnd (l : List Char) : List Char := (l.reverse.dropWhile isBlank).reverse

/-- A text up to a comment, which follows a blank. -/
def withoutComment : List Char → List Char
  | [] => []
  | c :: '#' :: rest => if isBlank c then [] else c :: withoutComment ('#' :: rest)
  | c :: rest => c :: withoutComment rest

/-- Whether nothing but a comment follows. -/
def endsHere (l : List Char) : Bool := withoutComment (' ' :: l) |>.all isBlank

/-! ### Plain texts -/

/-- Names of numbers that no setting can have. -/
def namedNumbers : List String := [
  ".inf", ".Inf", ".INF", "+.inf", "+.Inf", "+.INF", "-.inf", "-.Inf", "-.INF", ".nan", ".NAN"]

/-- A whole number in base ten, or behind a mark in base sixteen or eight. -/
def whole? (l : List Char) : Option Int :=
  let inBase (base : Nat) (l : List Char) : Option Int := do
    let (negative, digits) := Toml.splitSign l
    let values ← digits.mapM Toml.hexDigit?
    if values = [] ∨ values.any (base ≤ ·) then none
    else
      let n : Int := Toml.ofDigits base values
      Toml.inRange? (if negative then -n else n)
  match l with
  | '0' :: 'x' :: rest => inBase 16 rest
  | '0' :: 'o' :: rest => inBase 8 rest
  | l => inBase 10 l

/-- What a text without quotes stands for. -/
def plain (l : List Char) : Except String Datum :=
  let s := String.ofList l
  if s ∈ namedNumbers then .error ("Parsing " ++ s ++ " as floating point number failed")
  else if s = "~" ∨ s = "null" then .ok .blank
  else if s = "true" then .ok (.boolean true)
  else if s = "false" then .ok (.boolean false)
  else
    match whole? l, Floating.ofText? s with
    | some n, _ => .ok (.integer n)
    | none, some x => .ok (.float x)
    | none, none => .ok (.text s)

/-! ### Quoted texts -/

/-- The characters that letters behind a backslash stand for. -/
def escapes : List (Char × Char) := [
  ('0', Char.ofNat 0), ('a', Char.ofNat 7), ('b', Char.ofNat 8), ('t', '\t'), ('\t', '\t'),
  ('n', '\n'), ('v', Char.ofNat 11), ('f', Char.ofNat 12), ('r', '\r'), ('e', Char.ofNat 27),
  (' ', ' '), ('"', '"'), ('/', '/'), ('\\', '\\'), ('N', '\u0085'), ('_', '\u00a0'),
  ('L', '\u2028'), ('P', '\u2029')]

/-- The character given by `count` hexadecimal digits. -/
def coded? (count : Nat) (l : List Char) : Option (Char × List Char) := do
  let digits ← (l.take count).mapM Toml.hexDigit?
  let n := Toml.ofDigits 16 digits
  if digits.length = count ∧ (n < 0xd800 ∨ 0xdfff < n) ∧ n ≤ 0x10ffff then
    return (Char.ofNat n, l.drop count)
  else none

/-- Folds the line break between a text and the lines behind it: the breaks that count, and
    the lines from the next one with a text on. -/
def fold : List Line → List Char × List Line
  | [] => ([], [])
  | l :: rest =>
    if l.text.all isBlank then
      let (breaks, rest) := fold rest
      ('\n' :: breaks, rest)
    else ([], l :: rest)

/-- A quoted text behind its opening quote, with the text behind it on its last line and the
    lines after that; `acc` is what was read, latest first.  `fuel` bounds the number of
    characters. -/
def quoted? (double : Bool) :
    Nat → List Char → List Char → List Line → Option (List Char × List Char × List Line)
  | 0, _, _, _ => none
  | fuel + 1, acc, l, lines =>
    let next (keep : List Char) : Option (List Char × List Char × List Line) :=
      match fold lines with
      | (_, []) => none
      | (breaks, line :: rest) =>
        let between := if breaks.isEmpty then [' '] else breaks
        quoted? double fuel (between ++ keep) (line.text.dropWhile isBlank) rest
    match double, l with
    | true, '"' :: rest | false, '\'' :: rest =>
      match double, rest with
      | false, '\'' :: rest => quoted? double fuel ('\'' :: acc) rest lines
      | _, rest => some (acc.reverse, rest, lines)
    | true, ['\\'] =>
      match fold lines with
      | (_, []) => none
      | (breaks, line :: rest) =>
        quoted? double fuel (breaks ++ acc) (line.text.dropWhile isBlank) rest
    | true, '\\' :: c :: rest =>
      let found :=
        if c = 'x' then coded? 2 rest
        else if c = 'u' then coded? 4 rest
        else if c = 'U' then coded? 8 rest
        else (escapes.lookup c).map (·, rest)
      match found with
      | some (c, rest) => quoted? double fuel (c :: acc) rest lines
      | none => none
    | _, c :: rest => quoted? double fuel (c :: acc) rest lines
    | _, [] => next (acc.dropWhile isBlank)

/-- How many steps reading a quoted text can take. -/
def quotedFuel (l : List Char) (lines : List Line) : Nat :=
  lines.foldl (fun n line => n + line.text.length + 1) (l.length + 1)

/-! ### Texts in blocks -/

/-- The marks of a block of text: whether lines are folded, what becomes of the line breaks at
    its end, and how deep it is indented. -/
structure BlockMarks where
  folded : Bool
  /-- `-` for none, `+` for all, a blank for one. -/
  chomping : Char := ' '
  depth : Option Nat := none

def BlockMarks.ofText? (l : List Char) : Option BlockMarks := do
  let (folded, rest) ← match l with
    | '|' :: rest => some (false, rest)
    | '>' :: rest => some (true, rest)
    | _ => none
  let marks := rest.takeWhile fun c => !isBlank c
  if ¬ endsHere (rest.dropWhile fun c => !isBlank c) then none
  else
    marks.foldlM (fun m c =>
      if c = '-' ∨ c = '+' then some { m with chomping := c }
      else if c.isDigit ∧ c ≠ '0' then some { m with depth := Toml.decimalDigit? c }
      else none) { folded }

/-- The texts of the lines of a block that is indented by `depth`, and the lines behind it. -/
def blockLines (depth : Nat) (lines : List Line) : List (List Char) × List Line :=
  let inside (l : Line) : Bool := depth ≤ l.indent || l.text.isEmpty
  ((lines.takeWhile inside).map fun l => List.replicate (l.indent - depth) ' ' ++ l.text,
    lines.dropWhile inside)

/-- Joins lines; a break between two lines that are not indented further counts as a space if
    the lines are folded, and is left out before blank lines. -/
def joinLines (folded : Bool) : List (List Char) → List Char
  | [] => []
  | [l] => l
  | l :: [] :: rest =>
    if folded ∧ ¬ (l.head?.map isBlank).getD true then l ++ joinBlank rest
    else l ++ '\n' :: joinLines folded ([] :: rest)
  | l :: m :: rest =>
    let indented := (l.head?.map isBlank).getD true || (m.head?.map isBlank).getD true
    l ++ (if folded ∧ ¬ indented then ' ' else '\n') :: joinLines folded (m :: rest)
where
  /-- The lines behind a first blank line. -/
  joinBlank : List (List Char) → List Char
    | [] => ['\n']
    | m :: rest => '\n' :: joinLines folded (m :: rest)

/-- The text of a block in an item that is indented by `parent`, and the lines behind it. -/
def blockText (marks : BlockMarks) (parent : Nat) (lines : List Line) : String × List Line :=
  let depth := match marks.depth with
    | some n => parent + n
    | none => ((lines.dropWhile fun l => l.text.isEmpty).head?.map (·.indent)).getD 0
  let (all, rest) := if depth = 0 ∧ parent ≠ 0 then ([], lines) else blockLines depth lines
  let kept := (all.reverse.dropWhile List.isEmpty).reverse
  let text := joinLines marks.folded kept
  let breaks := match marks.chomping with
    | '-' => 0
    | '+' => all.length - kept.length + (if kept.isEmpty then 0 else 1)
    | _ => if kept.isEmpty then 0 else 1
  (String.ofList (text ++ List.replicate breaks '\n'), rest)

end SchemaCatalog.Yaml
