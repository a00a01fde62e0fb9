/-
  Reading INI files
  =================
  **The settings of an INI file: texts in sections.**

  A line with a key and a value, with `=` or `:` between them, sets the
  value in the current section; a name between brackets makes another
  section current, and before the first one the settings stand alone.  A
  value ends with its line unless it begins with a quote.  A backslash gives
  the character behind it a meaning of its own.  Comments fill whole lines.
-/
import SchemaCatalog.Config.Datum
import SchemaCatalog.Text.Fault
import SchemaCatalog.Text.Whitespace

namespace SchemaCatalog.Ini

def trim (l : List Char) : String :=
  let front := l.dropWhile Text.isWhitespace
  String.ofList (front.reverse.dropWhile Text.isWhitespace).reverse

/-- Blanks other than line breaks. -/
def isInlineBlank (c : Char) : Bool := Text.isWhitespace c && c ≠ '\n' && c ≠ '\r'

/-- The characters that letters behind a backslash stand for. -/
def escapes : List (Char × Char) := [
  ('0', Char.ofNat 0), ('a', Char.ofNat 7), ('b', Char.ofNat 8), ('t', '\t'), ('r', '\r'),
  ('n', '\n')]

/-- What is wrong with an escape that the file ends in. -/
def endOfLineMissing : String :=
  "expecting \"[Some('\\n'), Some('\\r'), None]\" but found EOF."

/-- A character by four hexadecimal digits behind `\x`. -/
def codedChar (atEnd : String) (l : List Char) : Except TextFault (Char × List Char) :=
  if l.length < 4 then .error ⟨atEnd, []⟩
  else
    let code := do
      let digits ← (l.take 4).mapM fun c => if c.toNat < 0x80 then hexValue? (byte c) else none
      let n := digits.foldl (fun n d => 16 * n + d) 0
      if n < 0xd800 ∨ 0xdfff < n then some (Char.ofNat n) else none
    match code with
    | some c => .ok (c, l.drop 4)
    | none => .error ⟨"unknown character in \\xHH form", l.drop 3⟩

/-- The text up to one of the characters `ends`, which is left; `atEnd` is what is wrong if the
    file ends before.  `fuel` bounds the length of the text. -/
def textUntil (ends : List Char) (atEnd : Option String) :
    Nat → List Char → Except TextFault (List Char × List Char)
  | 0, l => .ok ([], l)
  | fuel + 1, l =>
    let continued (c : Char) (rest : List Char) : Except TextFault (List Char × List Char) := do
      let (text, rest) ← textUntil ends atEnd fuel rest
      return (c :: text, rest)
    match l with
    | [] =>
      match atEnd with
      | some message => .error ⟨message, []⟩
      | none => .ok ([], [])
    | c :: rest =>
      if c ∈ ends then .ok ([], l)
      else if c = '\\' then
        match rest with
        | [] => .error ⟨atEnd.getD endOfLineMissing, []⟩
        | 'x' :: rest => do
          let (c, rest) ← codedChar (atEnd.getD endOfLineMissing) rest
          continued c rest
        | '\n' :: rest => textUntil ends atEnd fuel (rest.drop 1)
        | c :: rest => continued ((escapes.lookup c).getD c) rest
      else continued c rest

def restOfLine (fuel : Nat) (l : List Char) : Except TextFault (List Char × List Char) :=
  textUntil ['\n', '\r'] none fuel l

/-- A value behind its mark. -/
def readValue (fuel : Nat) (l : List Char) : Except TextFault (String × List Char) := do
  let quoted (quote : Char) (rest : List Char) : Except TextFault (String × List Char) := do
    let shown := if quote = '"' then "'\"'" else "'\\''"
    let (text, rest) ← textUntil [quote]
      (some ("expecting \"[Some(" ++ shown ++ ")]\" but found EOF.")) fuel rest
    let (more, rest) ← restOfLine fuel (rest.drop 1)
    return (String.ofList text ++ trim more, rest)
  match l.dropWhile isInlineBlank with
  | '"' :: rest => quoted '"' rest
  | '\'' :: rest => quoted '\'' rest
  | l =>
    let (text, rest) ← restOfLine fuel l
    return (trim text, rest)

/-- The settings of a file as far as it has been read, by sections; the section without a name
    comes first. -/
structure Draft where
  alone : List (String × Datum) := []
  sections : List (String × List (String × Datum)) := []
  key : String := ""

namespace Draft

def put (d : Draft) (v : String) : Draft :=
  let setting := (d.key, Datum.text v)
  match d.sections with
  | [] => { d with alone := d.alone ++ [setting], key := "" }
  | (name, settings) :: before =>
    { d with sections := (name, settings ++ [setting]) :: before, key := "" }

/-- The settings; of two sections of one name the later counts. -/
def finish (d : Draft) : Datum :=
  .ofMembers (d.alone ++ d.sections.reverse.map fun (name, settings) => (name, .ofMembers settings))

end Draft

/-- Reads the rest of a text; `lineStart` says whether it is at the start of a line.  `fuel`
    bounds the length of the text. -/
def readRest : Nat → Draft → Bool → List Char → Except TextFault Draft
  | 0, d, _, _ => .ok d
  | fuel + 1, d, lineStart, l =>
    match l with
    | [] => .ok d
    | c :: rest =>
      if c = '\n' then readRest fuel d true rest
      else if Text.isWhitespace c then readRest fuel d false rest
      else if c = ';' ∨ c = '#' then
        if ¬ lineStart then .error ⟨"doesn't support inline comment", l⟩
        else readRest fuel d true ((l.dropWhile (· ≠ '\n')).drop 1)
      else if c = '[' then do
        let (name, rest) ← textUntil [']'] (some "expecting \"[Some(']')]\" but found EOF.") fuel
          rest
        readRest fuel { d with sections := (trim name, []) :: d.sections } false (rest.drop 1)
      else if c = '=' ∨ c = ':' then
        if d.key = "" then .error ⟨"missing key", l⟩
        else do
          let (v, rest) ← readValue fuel rest
          readRest fuel (d.put v) false rest
      else do
        let (key, rest) ← textUntil ['=', ':']
          (some "expecting \"[Some('='), Some(':')]\" but found EOF.") fuel l
        readRest fuel { d with key := trim key } false rest

/-- The settings of a file, or what is wrong with it. -/
def read (text : String) : Except String Datum :=
  let l := text.toList
  match readRest (2 * l.length + 2) {} true l with
  | .ok d => .ok d.finish
  | .error f =>
    -- the character at the fault counts as passed
    let (line, column) := placeIn l (l.length - f.rest.length + 1)
    .error (Nat.repr line ++ ":" ++ Nat.repr column ++ " " ++ f.message)

end SchemaCatalog.Ini
