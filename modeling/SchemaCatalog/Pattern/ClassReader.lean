/-
  Reading bracketed classes
  =========================
  **The set of characters between brackets in a pattern.**

  A class is a list of characters, ranges, escapes and classes inside it,
  and stands for their union, or with `^` in front for all other characters.
  Between two such lists may stand `&&`, `--` or `~~` for the intersection,
  the difference and the symmetric difference; these bind less than the
  union and group to the left.  A `]` or `-` in front stands for itself.
-/
import SchemaCatalog.Pattern.CharSet
import SchemaCatalog.Json.Token

namespace SchemaCatalog.Pattern

/-- The value of digits in base sixteen. -/
def hexDigits? (l : List Char) : Option Nat := do
  let digits ← l.mapM fun c => if c.toNat < 0x80 then hexValue? (byte c) else none
  return digits.foldl (fun n d => 16 * n + d) 0

/-- The character with a code, if there is one. -/
def charOfCode? (code : Nat) : Option Char :=
  if code < 0xd800 ∨ (0xdfff < code ∧ code ≤ 0x10ffff) then some (Char.ofNat code) else none

/-- The character given by `digits` hexadecimal digits, or by up to eight between braces. -/
def hexChar? (digits : Nat) (l : List Char) : Option (Char × List Char) :=
  let front := l.take digits
  match (if front.length = digits then hexDigits? front else none), l with
  | some code, l => (charOfCode? code).map (·, l.drop digits)
  | none, '\x7b' :: rest => do
    let inside := rest.takeWhile (· ≠ '\x7d')
    match rest.dropWhile (· ≠ '\x7d') with
    | _ :: after =>
      if inside = [] ∨ 8 < inside.length then none
      else return (← charOfCode? (← hexDigits? inside), after)
    | [] => none
  | none, _ => none

/-- The set that `\p` or `\P` with a name stands for; the name is one letter, or stands
    between braces. -/
def namedSet? (negated : Bool) (l : List Char) : Option (CharSet × List Char) := do
  let (name, rest) ← match l with
    | '\x7b' :: rest =>
      match rest.dropWhile (· ≠ '\x7d') with
      | _ :: after => some (rest.takeWhile (· ≠ '\x7d'), after)
      | [] => none
    | c :: rest => some ([c], rest)
    | [] => none
  let set := CharSet.property (← CharProperty.named? (String.ofList name))
  return (if negated then set.compl else set, rest)

def asciiRange (low high : Char) : CharSet := .range low high

def asciiLetters : CharSet := (asciiRange 'a' 'z').union (asciiRange 'A' 'Z')

def asciiDigits : CharSet := asciiRange '0' '9'

def asciiVisible : CharSet := asciiRange '!' '~'

def hexadecimalDigits : CharSet :=
  asciiDigits.union ((asciiRange 'A' 'F').union (asciiRange 'a' 'f'))

/-- The sets that stand for names between `[:` and `:]`. -/
def asciiSets : List (String × CharSet) := [
  ("alnum", asciiLetters.union asciiDigits), ("alpha", asciiLetters),
  ("ascii", asciiRange (Char.ofNat 0) (Char.ofNat 0x7f)), ("blank", .ofChars ['\t', ' ']),
  ("cntrl", (asciiRange (Char.ofNat 0) (Char.ofNat 0x1f)).union (.single (Char.ofNat 0x7f))),
  ("digit", asciiDigits), ("graph", asciiVisible), ("lower", asciiRange 'a' 'z'),
  ("print", asciiRange ' ' '~'),
  ("punct", asciiVisible.sdiff (asciiLetters.union asciiDigits)),
  ("space", (asciiRange '\t' '\r').union (.single ' ')), ("upper", asciiRange 'A' 'Z'),
  ("word", (asciiLetters.union asciiDigits).union (.single '_')), ("xdigit", hexadecimalDigits)]

/-- A named set of ASCII behind its opening bracket, with the text behind it. -/
def asciiSet? (l : List Char) : Option (CharSet × List Char) :=
  match l with
  | ':' :: rest =>
    let (negated, rest) := match rest with
      | '^' :: rest => (true, rest)
      | rest => (false, rest)
    match rest.dropWhile (· ≠ ':') with
    | ':' :: ']' :: after =>
      (asciiSets.lookup (String.ofList (rest.takeWhile (· ≠ ':')))).map fun s =>
        (if negated then s.compl else s, after)
    | _ => none
  | _ => none

/-! ### Escapes -/

/-- What a backslash and what follows stand for, where characters are meant. -/
inductive EscapedChar where
  | literal (c : Char)
  | set (s : CharSet)
deriving Repr

/-- The characters that letters behind a backslash stand for. -/
def controlEscapes : List (Char × Char) := [
  ('a', Char.ofNat 7), ('b', Char.ofNat 8), ('e', Char.ofNat 0x1b), ('f', Char.ofNat 12),
  ('n', '\n'), ('r', '\r'), ('t', '\t'), ('v', Char.ofNat 11)]

/-- An escape that stands for characters, behind its backslash.  A letter that means nothing
    is no escape. -/
def escapedChar? (l : List Char) : Option (EscapedChar × List Char) :=
  let some' (s : CharSet) (rest : List Char) : Option (EscapedChar × List Char) :=
    some (.set s, rest)
  match l with
  | 'd' :: rest => some' .digits rest
  | 'D' :: rest => some' (.compl .digits) rest
  | 's' :: rest => some' .spaces rest
  | 'S' :: rest => some' (.compl .spaces) rest
  | 'w' :: rest => some' .words rest
  | 'W' :: rest => some' (.compl .words) rest
  | 'h' :: rest => some' hexadecimalDigits rest
  | 'H' :: rest => some' (.compl hexadecimalDigits) rest
  | 'p' :: rest => (namedSet? false rest).map fun (s, rest) => (.set s, rest)
  | 'P' :: rest => (namedSet? true rest).map fun (s, rest) => (.set s, rest)
  | 'x' :: rest => (hexChar? 2 rest).map fun (c, rest) => (.literal c, rest)
  | 'u' :: rest => (hexChar? 4 rest).map fun (c, rest) => (.literal c, rest)
  | 'U' :: rest => (hexChar? 8 rest).map fun (c, rest) => (.literal c, rest)
  | c :: rest =>
    match controlEscapes.lookup c with
    | some d => some (.literal d, rest)
    | none => if c.isAlpha then none else some (.literal c, rest)
  | [] => none

/-! ### Classes -/

/-- One element of a class: a character, with what an escape stands for.  The letters that
    elsewhere make an escape for a condition stand for themselves. -/
def classItem? (l : List Char) : Option (EscapedChar × List Char) :=
  match l with
  | '\\' :: c :: rest =>
    if c ∈ ['A', 'B', 'G', 'K', 'k', 'z'] then some (.literal c, rest) else escapedChar? (c :: rest)
  | ['\\'] => none
  | c :: rest => some (.literal c, rest)
  | [] => none

/-- A range or a single element. -/
def classRange? (l : List Char) : Option (CharSet × List Char) := do
  let (first, rest) ← classItem? l
  let alone : CharSet := match first with
    | .literal c => .single c
    | .set s => s
  match rest with
  | '-' :: ']' :: _ | '-' :: '-' :: _ => return (alone, rest)
  | '-' :: rest =>
    let (last, rest) ← classItem? rest
    match first, last with
    | .literal c, .literal d => if c ≤ d then return (.range c d, rest) else none
    | _, _ => none
  | rest => return (alone, rest)

/-- The operations between lists of elements. -/
inductive ClassOperation where
  | first
  | intersection
  | difference
  | symmetricDifference
deriving DecidableEq, Repr

/-- Applies an operation to what stands before it and what follows. -/
def ClassOperation.apply (fold : Bool) : ClassOperation → CharSet → CharSet → CharSet
  | first, _, t => t
  | intersection, s, t => .inter (folding s) (folding t)
  | difference, s, t => .sdiff (folding s) (folding t)
  | symmetricDifference, s, t => .symmDiff (folding s) (folding t)
where
  folding (s : CharSet) : CharSet := if fold then .folded s else s

/-- The marks behind an opening bracket: whether the class is negated, and the characters
    that stand for themselves there. -/
def classFront (l : List Char) : Bool × List Char × List Char :=
  let (negated, rest) := match l with
    | '^' :: rest => (true, rest)
    | l => (false, l)
  match rest.takeWhile (· = '-'), rest.dropWhile (· = '-') with
  | [], ']' :: rest => (negated, [']'], rest)
  | dashes, rest => (negated, dashes, rest)

mutual

/-- A class behind its opening bracket.  `fuel` bounds the length of the text. -/
def classSet? (fold : Bool) : Nat → List Char → Option (CharSet × List Char)
  | 0, _ => none
  | fuel + 1, l => do
    let (negated, front, rest) := classFront l
    let (s, rest) ← classBody? fold fuel .nothing .first (.ofChars front) rest
    let s := if fold then .folded s else s
    return (if negated then .compl s else s, rest)

/-- The rest of a class: `before` and `operation` are what stands before the current list of
    elements, and `current` is the list as far as it has been read. -/
def classBody? (fold : Bool) : Nat → CharSet → ClassOperation → CharSet → List Char →
    Option (CharSet × List Char)
  | 0, _, _, _, _ => none
  | fuel + 1, before, operation, current, l =>
    match l with
    | [] => none
    | ']' :: rest => some (operation.apply fold before current, rest)
    | '&' :: '&' :: rest =>
      classBody? fold fuel (operation.apply fold before current) .intersection .nothing rest
    | '-' :: '-' :: rest =>
      classBody? fold fuel (operation.apply fold before current) .difference .nothing rest
    | '~' :: '~' :: rest =>
      classBody? fold fuel (operation.apply fold before current) .symmetricDifference .nothing rest
    | '[' :: rest => do
      let (s, rest) ← (asciiSet? rest).or (classSet? fold fuel rest)
      classBody? fold fuel before operation (current.union s) rest
    | l => do
      let (s, rest) ← classRange? l
      classBody? fold fuel before operation (current.union s) rest

end

end SchemaCatalog.Pattern
