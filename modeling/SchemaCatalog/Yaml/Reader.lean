/-
  Reading YAML files
  ==================
  **The data of a YAML document, by the indentation of its lines.**

  A block is a list, with a dash in front of each element, or a table, with
  a key in front of each value; its lines have the same indentation, and
  what belongs to an element is indented further.  An element may begin on
  the line of its dash and counts as indented as far as it stands.  Lists
  and tables may also be written between brackets, over any number of lines.
-/
import SchemaCatalog.Yaml.Scalar

namespace SchemaCatalog.Yaml

def misplacedKey : String := "mapping values are not allowed in this context"

/-! ### Marks -/

/-- Text behind a dash that begins an element. -/
def behindDash? (l : List Char) : Option (List Char) :=
  match l with
  | '-' :: rest => if (rest.head?.map isBlank).getD true then some rest else none
  | _ => none

/-- Text behind a colon that ends a key. -/
def behindColon? (l : List Char) : Option (List Char) :=
  match l with
  | ':' :: rest => if (rest.head?.map isBlank).getD true then some rest else none
  | _ => none

/-- A plain text up to a colon that ends a key, with the text behind the colon. -/
def splitAtColon? : List Char → Option (List Char × List Char)
  | [] => none
  | c :: rest =>
    match behindColon? (c :: rest) with
    | some behind => some ([], behind)
    | none => (splitAtColon? rest).map fun (key, behind) => (c :: key, behind)

/-- Whether a text without quotes may begin like this. -/
def startsPlain (l : List Char) : Bool :=
  match l with
  | [] => false
  | c :: rest =>
    if c ∈ ['-', '?', ':'] then (rest.head?.map fun d => !isBlank d).getD false
    else
      c ∉ [',', '[', ']', '\x7b', '\x7d', '#', '&', '*', '!', '|', '>', '\'', '"', '%', '@',
        '\x60']

/-- The name that a key without quotes gives. -/
def keyName (l : List Char) : String :=
  match plain l with
  | .ok (.integer n) => integerText n
  | _ => String.ofList l

/-- The key in front of a line, with the text behind its colon. -/
def key? (l : List Char) : Option (String × List Char) :=
  let quotedKey (double : Bool) (rest : List Char) : Option (String × List Char) :=
    match quoted? double (rest.length + 1) [] rest [] with
    | some (name, rest, _) =>
      (behindColon? (rest.dropWhile isBlank)).map (String.ofList name, ·)
    | none => none
  match l with
  | '"' :: rest => quotedKey true rest
  | '\'' :: rest => quotedKey false rest
  | l =>
    if startsPlain l then
      (splitAtColon? (withoutComment l)).map fun (key, _) =>
        (keyName (trimEnd key), (l.drop (key.length + 1)))
    else none

/-- The text behind an anchor or a tag. -/
def withoutProperties : Nat → List Char → List Char
  | 0, l => l
  | fuel + 1, l =>
    match l.dropWhile isBlank with
    | '&' :: rest | '!' :: rest => withoutProperties fuel (rest.dropWhile fun c => !isBlank c)
    | l => l

/-! ### Values between brackets -/

/-- What is left to read: the rest of a line, and the lines behind it. -/
structure Remainder where
  text : List Char
  lines : List Line

/-- What is left behind blanks and comments, on a later line if need be. -/
def Remainder.skip (r : Remainder) : Remainder :=
  if endsHere r.text then
    match skipEmpty r.lines with
    | [] => ⟨[], []⟩
    | line :: rest => ⟨line.text, rest⟩
  else ⟨r.text.dropWhile isBlank, r.lines⟩

def isBracketMark (c : Char) : Bool := c ∈ [',', '[', ']', '\x7b', '\x7d']

/-- A plain text between brackets. -/
def flowPlain : List Char → List Char
  | [] => []
  | c :: rest =>
    if isBracketMark c ∨ (behindColon? (c :: rest)).isSome ∨
        (c = ':' ∧ (rest.head?.map isBracketMark).getD false) then []
    else c :: flowPlain rest

def unfinishedList : String := "while parsing a flow sequence, expected ',' or ']'"

def unfinishedTable : String :=
  "while parsing a flow mapping, did not find expected ',' or '\x7d'"

/-- A text behind its opening quote. -/
def flowText (double : Bool) (r : Remainder) : Except String (Datum × Remainder) :=
  match quoted? double (quotedFuel r.text r.lines) [] r.text r.lines with
  | some (s, rest, lines) => .ok (.text (String.ofList s), ⟨rest, lines⟩)
  | none => .error "while scanning a quoted scalar, found unexpected end of stream"

mutual

/-- A value between brackets; `fuel` bounds the number of characters. -/
def flowValue : Nat → Remainder → Except String (Datum × Remainder)
  | 0, _ => .error unfinishedTable
  | fuel + 1, r => do
    let r := { r with text := withoutProperties r.text.length r.text }.skip
    match r.text with
    | '[' :: rest =>
      let (elements, r) ← flowElements fuel { r with text := rest }
      return (.list elements, r)
    | '\x7b' :: rest =>
      let (members, r) ← flowMembers fuel { r with text := rest }
      return (.ofMembers members, r)
    | '"' :: rest => flowText true { r with text := rest }
    | '\'' :: rest => flowText false { r with text := rest }
    | l =>
      let text := flowPlain (withoutComment l)
      let v ← if text = [] then pure Datum.blank else plain (trimEnd text)
      return (v, { r with text := l.drop text.length })

/-- A value behind a colon, or none. -/
def flowAfterColon : Nat → Remainder → Except String (Datum × Remainder)
  | 0, _ => .error unfinishedTable
  | fuel + 1, r =>
    match r.skip.text with
    | ':' :: rest => flowValue fuel { r.skip with text := rest }
    | _ => .ok (.blank, r)

/-- The rest of a list between brackets; an element may be a table of one member. -/
def flowElements : Nat → Remainder → Except String (List Datum × Remainder)
  | 0, _ => .error unfinishedList
  | fuel + 1, r => do
    let r := r.skip
    match r.text with
    | [] => throw unfinishedList
    | ']' :: rest => return ([], { r with text := rest })
    | _ =>
      let (first, r) ← flowValue fuel r
      let (v, r) ← match first, r.skip.text with
        | .text key, ':' :: _ => do
          let (v, r) ← flowAfterColon fuel r
          pure (Datum.ofMembers [(key, v)], r)
        | v, _ => pure (v, r)
      let r := r.skip
      match r.text with
      | ',' :: rest =>
        let (more, r) ← flowElements fuel { r with text := rest }
        return (v :: more, r)
      | ']' :: rest => return ([v], { r with text := rest })
      | _ => throw unfinishedList

/-- The rest of a table between brackets. -/
def flowMembers : Nat → Remainder → Except String (List (String × Datum) × Remainder)
  | 0, _ => .error unfinishedTable
  | fuel + 1, r => do
    let r := r.skip
    match r.text with
    | '\x7d' :: rest => return ([], { r with text := rest })
    | l =>
      let (name, r) ← flowValue fuel r
      let key := match name with
        | .text s => s
        | _ => keyName (trimEnd (flowPlain (withoutComment l)))
      let (v, r) ← flowAfterColon fuel r
      let r := r.skip
      match r.text with
      | ',' :: rest =>
        let (more, r) ← flowMembers fuel { r with text := rest }
        return ((key, v) :: more, r)
      | '\x7d' :: rest => return ([(key, v)], { r with text := rest })
      | _ => throw unfinishedTable

end

/-! ### Texts over several lines -/

/-- The lines that continue a plain text: those indented by `least` or more. -/
def plainLines (least : Nat) (acc : List Char) : List Line → Except String (List Char × List Line)
  | [] => .ok (acc, [])
  | line :: lines =>
    if line.text.all isBlank then
      let (breaks, rest) := fold (line :: lines)
      match rest with
      | [] => .ok (acc, [])
      | next :: _ =>
        if next.indent < least ∨ next.isEmpty then .ok (acc, rest)
        else plainLines least (acc ++ breaks.drop 1 ++ ['\n']) lines
    else if line.indent < least ∨ line.isEmpty then .ok (acc, line :: lines)
    else if (splitAtColon? (withoutComment line.text)).isSome then .error misplacedKey
    else
      let between := if acc.getLast? = some '\n' then [] else [' ']
      let acc := acc ++ between ++ trimEnd (withoutComment line.text)
      -- a comment ends the text
      if (withoutComment line.text).length < line.text.length then .ok (acc, lines)
      else plainLines least acc lines

/-- The lines behind a value, which must end its line. -/
def Remainder.ended (r : Remainder) : Except String (List Line) :=
  if endsHere r.text then .ok r.lines
  else if (behindColon? (r.text.dropWhile isBlank)).isSome then .error misplacedKey
  else .error "while parsing a block mapping, did not find expected key"

/-- A value that begins with `l`, and whose other lines are indented by `least` or more. -/
def inlineValue (least : Nat) (l : List Char) (lines : List Line) :
    Except String (Datum × List Line) := do
  match l with
  | '[' :: _ | '\x7b' :: _ | '"' :: _ | '\'' :: _ =>
    let (v, r) ← flowValue (2 * quotedFuel l lines) ⟨l, lines⟩
    return (v, ← r.ended)
  | '*' :: _ => throw "while parsing node, found unknown anchor"
  | '%' :: _ | '@' :: _ | '\x60' :: _ =>
    throw ("unexpected character: \x60" ++ String.ofList (l.take 1) ++ "'")
  | l =>
    let start := withoutComment l
    if (behindDash? l).isSome then
      throw "block sequence entries are not allowed in this context"
    if (splitAtColon? start).isSome then throw misplacedKey
    -- a comment ends the text
    let (text, rest) ←
      if start.length < l.length then pure (trimEnd start, lines)
      else plainLines least (trimEnd start) lines
    return (← plain text, rest)

/-! ### Blocks -/

mutual

/-- A value on lines indented by `least` or more; `fuel` bounds the number of characters. -/
def block : Nat → Nat → List Line → Except String (Datum × List Line)
  | 0, _, lines => .ok (.blank, lines)
  | fuel + 1, least, lines =>
    match skipEmpty lines with
    | [] => .ok (.blank, [])
    | line :: rest =>
      if line.indent < least then .ok (.blank, line :: rest)
      else if (behindDash? line.text).isSome then do
        let (l, rest) ← elements fuel line.indent (line :: rest)
        return (.list l, rest)
      else if (key? line.text).isSome then do
        let (l, rest) ← members fuel line.indent (line :: rest)
        return (.ofMembers l, rest)
      else valueAfter fuel least (least - 1) line.text rest

/-- The value that begins behind a mark of an item, with `l`. -/
def valueAfter : Nat → Nat → Nat → List Char → List Line → Except String (Datum × List Line)
  | 0, _, _, _, lines => .ok (.blank, lines)
  | fuel + 1, least, parent, l, lines =>
    let l := withoutProperties l.length l
    if endsHere l then block fuel least lines
    else
      match BlockMarks.ofText? l with
      | some marks =>
        let (text, rest) := blockText marks parent lines
        .ok (.text text, rest)
      | none => inlineValue least l lines

/-- The elements of a list whose dashes are indented by `indent`. -/
def elements : Nat → Nat → List Line → Except String (List Datum × List Line)
  | 0, _, lines => .ok ([], lines)
  | fuel + 1, indent, lines =>
    match skipEmpty lines with
    | [] => .ok ([], [])
    | line :: rest =>
      if line.indent < indent then .ok ([], line :: rest)
      else
        match behindDash? line.text with
        | some behind => do
          let l := behind.dropWhile isBlank
          let virtual : Line := ⟨indent + 1 + (behind.length - l.length), l⟩
          let (v, rest) ←
            if (behindDash? l).isSome ∨ (key? l).isSome then
              block fuel (indent + 1) (virtual :: rest)
            else valueAfter fuel (indent + 1) indent l rest
          let (more, rest) ← elements fuel indent rest
          return (v :: more, rest)
        | none =>
          if line.indent = indent then .ok ([], line :: rest)
          else .error "while parsing a block collection, did not find expected '-' indicator"

/-- The members of a table whose keys are indented by `indent`. -/
def members : Nat → Nat → List Line → Except String (List (String × Datum) × List Line)
  | 0, _, lines => .ok ([], lines)
  | fuel + 1, indent, lines =>
    match skipEmpty lines with
    | [] => .ok ([], [])
    | line :: rest =>
      if line.indent < indent then .ok ([], line :: rest)
      else
        match key? line.text with
        | some (key, behind) => do
          if line.indent ≠ indent then
            throw "while parsing a block mapping, did not find expected key"
          let l := withoutProperties behind.length behind
          -- a list may stand as far left as the key it belongs to
          let least :=
            match skipEmpty rest with
            | next :: _ => if (behindDash? next.text).isSome then indent else indent + 1
            | [] => indent + 1
          let (v, rest) ←
            if endsHere l then block fuel least rest else valueAfter fuel (indent + 1) indent l rest
          let (more, rest) ← members fuel indent rest
          return ((key, v) :: more, rest)
        | none =>
          if (behindDash? line.text).isSome then
            .error "while parsing a block mapping, did not find expected key"
          else .error "simple key expect ':'"

end

/-! ### Documents -/

/-- The lines of the documents of a file. -/
def documents (lines : List Line) : List (List Line) :=
  let isMark (mark : String) (l : Line) : Bool :=
    l.indent = 0 && l.text.take 3 = mark.toList && ((l.text.drop 3).head?.map isBlank).getD true
  let step (before : List (List Line) × Option (List Line)) (l : Line) :
      List (List Line) × Option (List Line) :=
    let (done, current) := before
    if isMark "---" l then
      (done ++ current.toList, some [Line.ofText (' ' :: ' ' :: ' ' :: l.text.drop 3)])
    else if isMark "..." l then (done ++ current.toList, none)
    else
      match current with
      | some lines => (done, some (lines ++ [l]))
      | none =>
        if l.isEmpty ∨ (l.indent = 0 ∧ l.text.head? = some '%') then (done, none)
        else (done, some [l])
  let (done, current) := lines.foldl step ([], none)
  done ++ current.toList

/-- The data of a document. -/
def readDocument (text : String) (lines : List Line) : Except String Datum := do
  let (v, rest) ← block (4 * text.length + 4) 0 lines
  match skipEmpty rest with
  | [] => return v
  | _ => throw "did not find expected <document start>"

/-- The data of a file, or what is wrong with it.  A file without a document has an empty
    table. -/
def read (text : String) : Except String Datum :=
  match documents (Line.ofDocument text) with
  | [] => .ok (.table {})
  | [lines] => readDocument text lines
  | l => .error ("Got " ++ Nat.repr l.length ++ " YAML documents, expected 1")

end SchemaCatalog.Yaml
