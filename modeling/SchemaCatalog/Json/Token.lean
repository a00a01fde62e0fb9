/-
  JSON tokens
  ===========
  **The lexical layer of JSON, one byte at a time.**

  `Lexer.step` consumes one byte; the tokens of a text are what a left fold
  of it over the bytes leaves.  A token that can be delimited but has no
  value (a number out of range, a string with a lone surrogate or with bytes
  that are not UTF-8) carries the reason.  At a byte that no token can
  contain the lexer stops and leaves a token `broken` as the last one.

  A value that a reader has no use for is passed over, which asks less of
  the text: the value of a string or a number is not looked at.  A `Break`
  therefore names two errors, for a value that is read and for one that is
  passed over.
-/
import SchemaCatalog.Json.Number

namespace SchemaCatalog

/-- Why a text is not JSON. -/
inductive SyntaxError where
  | endOfValue
  | endOfObject
  | endOfList
  | endOfString
  | expectedColon
  | expectedCommaOrBrace
  | expectedCommaOrBracket
  | expectedIdent
  | expectedValue
  | keyNotString
  | trailingComma
  | trailingCharacters
  | invalidNumber
  | numberOutOfRange
  | invalidEscape
  | endOfHexEscape
  | loneSurrogate
  | controlCharacter
  | invalidCodePoint
  | recursionLimit
deriving DecidableEq, Repr

def SyntaxError.message : SyntaxError → String
  | endOfValue => "EOF while parsing a value"
  | endOfObject => "EOF while parsing an object"
  | endOfList => "EOF while parsing a list"
  | endOfString => "EOF while parsing a string"
  | expectedColon => "expected `:`"
  | expectedCommaOrBrace => "expected `,` or `\x7d`"
  | expectedCommaOrBracket => "expected `,` or `]`"
  | expectedIdent => "expected ident"
  | expectedValue => "expected value"
  | keyNotString => "key must be a string"
  | trailingComma => "trailing comma"
  | trailingCharacters => "trailing characters"
  | invalidNumber => "invalid number"
  | numberOutOfRange => "number out of range"
  | invalidEscape => "invalid escape"
  | endOfHexEscape => "unexpected end of hex escape"
  | loneSurrogate => "lone leading surrogate in hex escape"
  | controlCharacter => "control character (\\u0000-\\u001F) found while parsing a string"
  | invalidCodePoint => "invalid unicode code point"
  | recursionLimit => "recursion limit exceeded"

/-- The place where a text stops being JSON: the error for a value that is read, and the
    one for a value that is passed over. -/
structure Break where
  read : SyntaxError
  skipped : SyntaxError
deriving DecidableEq, Repr

/-- A break that is reported alike in both cases. -/
def Break.both (e : SyntaxError) : Break := ⟨e, e⟩

inductive Token where
  | openObject
  | closeObject
  | openArray
  | closeArray
  | comma
  | colon
  | null
  | bool (b : Bool)
  | num (n : Number)
  | str (s : String)
  /-- A number or, if `isText`, a string that has no value. -/
  | flawed (isText : Bool) (e : SyntaxError)
  /-- The text stops here, inside a string if `isText`. -/
  | broken (isText : Bool) (b : Break)
deriving Repr

abbrev Bytes := List UInt8

def Bytes.ofString (s : String) : Bytes := s.toUTF8.toList

/-- The text that the bytes spell in UTF-8, if they do. -/
def Bytes.toString? (b : Bytes) : Option String := String.fromUTF8? ⟨b.toArray⟩

/-- The code of an ASCII character. -/
def byte (c : Char) : UInt8 := c.toNat.toUInt8

def isDigitByte (c : UInt8) : Bool := byte '0' ≤ c && c ≤ byte '9'

/-- The value of a decimal digit. -/
def digitValue (c : UInt8) : Nat := (c - byte '0').toNat

/-- Space, tab, line feed and carriage return separate tokens. -/
def isSeparator (c : UInt8) : Bool :=
  c = byte ' ' || c = byte '\t' || c = byte '\n' || c = byte '\r'

/-! ### Numbers -/

/-- What was read last of a number. -/
inductive NumberPhase where
  | sign
  | zero
  | whole
  | point
  | fraction
  | mark
  | markSign
  | exponent
deriving DecidableEq, Repr

/-- Whether a number may end here. -/
def NumberPhase.isComplete : NumberPhase → Bool
  | zero | whole | fraction | exponent => true
  | sign | point | mark | markSign => false

/-- A number in progress.  The digits of `text` stand latest first. -/
structure NumberLexeme where
  text : NumberText := {}
  phase : NumberPhase := .sign
deriving Repr

namespace NumberLexeme

def pushWhole (n : NumberLexeme) (c : UInt8) (phase : NumberPhase) : NumberLexeme :=
  ⟨{ n.text with whole := digitValue c :: n.text.whole }, phase⟩

/-- The number with one more byte, or `none` if the byte does not continue it. -/
def push? (n : NumberLexeme) (c : UInt8) : Option NumberLexeme :=
  let isMark := c = byte 'e' || c = byte 'E'
  match n.phase with
  | .sign =>
    if c = byte '0' then some (n.pushWhole c .zero)
    else if isDigitByte c then some (n.pushWhole c .whole)
    else none
  | .zero =>
    if c = byte '.' then some ⟨{ n.text with hasPoint := true }, .point⟩
    else if isMark then some ⟨{ n.text with exponent? := some (false, []) }, .mark⟩
    else none
  | .whole =>
    if isDigitByte c then some (n.pushWhole c .whole)
    else if c = byte '.' then some ⟨{ n.text with hasPoint := true }, .point⟩
    else if isMark then some ⟨{ n.text with exponent? := some (false, []) }, .mark⟩
    else none
  | .point | .fraction =>
    if isDigitByte c then
      some ⟨{ n.text with fraction := digitValue c :: n.text.fraction }, .fraction⟩
    else if n.phase = .fraction ∧ isMark then
      some ⟨{ n.text with exponent? := some (false, []) }, .mark⟩
    else none
  | .mark | .markSign | .exponent =>
    let (down, ds) := n.text.exponent?.getD (false, [])
    if isDigitByte c then
      some ⟨{ n.text with exponent? := some (down, digitValue c :: ds) }, .exponent⟩
    else if n.phase = .mark ∧ (c = byte '+' ∨ c = byte '-') then
      some ⟨{ n.text with exponent? := some (c = byte '-', []) }, .markSign⟩
    else none

/-- The token of a complete number. -/
def token (n : NumberLexeme) : Token :=
  let text : NumberText :=
    { n.text with
      whole := n.text.whole.reverse
      fraction := n.text.fraction.reverse
      exponent? := n.text.exponent?.map fun (down, ds) => (down, ds.reverse) }
  match text.value? with
  | some n => .num n
  | none => .flawed false .numberOutOfRange

end NumberLexeme

/-! ### Strings -/

inductive TextPhase where
  | plain
  /-- After a backslash. -/
  | escape
  /-- Inside the four digits of a hexadecimal escape, those read so far. -/
  | hex (digits : List UInt8)
deriving Repr

/-- A string in progress.  The bytes of its value stand latest first; `flaw` is the first
    reason why it has no value; `leading` is a leading surrogate that waits for the
    trailing one. -/
structure TextLexeme where
  bytes : Bytes := []
  flaw : Option SyntaxError := none
  leading : Option Nat := none
  phase : TextPhase := .plain
deriving Repr

/-- The value of a hexadecimal digit. -/
def hexValue? (c : UInt8) : Option Nat :=
  if isDigitByte c then some (digitValue c)
  else if byte 'a' ≤ c ∧ c ≤ byte 'f' then some ((c - byte 'a').toNat + 10)
  else if byte 'A' ≤ c ∧ c ≤ byte 'F' then some ((c - byte 'A').toNat + 10)
  else none

/-- The character that `\c` stands for. -/
def escaped? (c : UInt8) : Option UInt8 :=
  if c = byte '"' ∨ c = byte '\\' ∨ c = byte '/' then some c
  else if c = byte 'b' then some 8
  else if c = byte 'f' then some 12
  else if c = byte 'n' then some 10
  else if c = byte 'r' then some 13
  else if c = byte 't' then some 9
  else none

namespace TextLexeme

inductive Outcome where
  | more (t : TextLexeme)
  | done (t : Token)

def mark (t : TextLexeme) (e : SyntaxError) : TextLexeme :=
  { t with flaw := some (t.flaw.getD e), leading := none }

/-- The text breaks inside the string. -/
def stop (t : TextLexeme) (e : SyntaxError) : Token := .broken true ⟨t.flaw.getD e, e⟩

def push (t : TextLexeme) (code : Nat) : TextLexeme :=
  { t with bytes := (Bytes.ofString (String.singleton (Char.ofNat code))).reverse ++ t.bytes
           phase := .plain }

/-- The string at its closing quote. -/
def token (t : TextLexeme) : Token :=
  match t.flaw with
  | some e => .flawed true e
  | none =>
    match Bytes.toString? t.bytes.reverse with
    | some s => .str s
    | none => .flawed true .invalidCodePoint

/-- A string with a complete hexadecimal escape of value `n`. -/
def pushUnit (t : TextLexeme) (n : Nat) : TextLexeme :=
  let isLeading := 0xD800 ≤ n ∧ n ≤ 0xDBFF
  let isTrailing := 0xDC00 ≤ n ∧ n ≤ 0xDFFF
  match t.leading with
  | some high =>
    if isTrailing then
      { t with leading := none }.push ((high - 0xD800) * 0x400 + (n - 0xDC00) + 0x10000)
    else { t.mark .loneSurrogate with phase := .plain }
  | none =>
    if isTrailing then { t.mark .loneSurrogate with phase := .plain }
    else if isLeading then { t with leading := some n, phase := .plain }
    else t.push n

def step (t : TextLexeme) (c : UInt8) : Outcome :=
  match t.phase with
  | .plain =>
    if c = byte '\\' then .more { t with phase := .escape }
    else
      -- a leading surrogate must be followed by another escape
      let t := if t.leading.isSome then t.mark .endOfHexEscape else t
      if c = byte '"' then .done t.token
      else if c < 0x20 then .done (t.stop .controlCharacter)
      else .more { t with bytes := c :: t.bytes }
  | .escape =>
    if c = byte 'u' then .more { t with phase := .hex [] }
    else
      let t := if t.leading.isSome then t.mark .endOfHexEscape else t
      match escaped? c with
      | some d => .more { t with bytes := d :: t.bytes, phase := .plain }
      | none => .done (t.stop .invalidEscape)
  | .hex ds =>
    let ds := ds ++ [c]
    if ds.length < 4 then .more { t with phase := .hex ds }
    else
      match ds.mapM hexValue? with
      | some vs => .more (t.pushUnit (vs.foldl (fun n v => n * 16 + v) 0))
      | none => .done (t.stop .invalidEscape)

end TextLexeme

/-! ### The lexer -/

/-- The token in progress. -/
inductive Lexeme where
  | between
  /-- A word with the letters still to come and the token that it is. -/
  | word (rest : Bytes) (token : Token)
  | number (n : NumberLexeme)
  | text (t : TextLexeme)
  | stopped
deriving Repr

/-- The state between two bytes: the finished tokens, latest first, and the one in progress. -/
structure Lexer where
  tokens : List Token := []
  lexeme : Lexeme := .between
deriving Repr

namespace Lexer

def emit (l : Lexer) (t : Token) : Lexer := ⟨t :: l.tokens, .between⟩

def stop (l : Lexer) (t : Token) : Lexer := ⟨t :: l.tokens, .stopped⟩

/-- Begins a token with the byte `c`. -/
def start (l : Lexer) (c : UInt8) : Lexer :=
  if isSeparator c then { l with lexeme := .between }
  else if c = byte '\x7b' then l.emit .openObject
  else if c = byte '\x7d' then l.emit .closeObject
  else if c = byte '[' then l.emit .openArray
  else if c = byte ']' then l.emit .closeArray
  else if c = byte ',' then l.emit .comma
  else if c = byte ':' then l.emit .colon
  else if c = byte '"' then { l with lexeme := .text {} }
  else if c = byte 't' then { l with lexeme := .word (Bytes.ofString "rue") (.bool true) }
  else if c = byte 'f' then { l with lexeme := .word (Bytes.ofString "alse") (.bool false) }
  else if c = byte 'n' then { l with lexeme := .word (Bytes.ofString "ull") .null }
  else if c = byte '-' then { l with lexeme := .number { text := { negative := true } } }
  else
    match ({} : NumberLexeme).push? c with
    | some n => { l with lexeme := .number n }
    | none => l.stop (.broken false (.both .expectedValue))

def step (l : Lexer) (c : UInt8) : Lexer :=
  match l.lexeme with
  | .stopped => l
  | .between => l.start c
  | .word rest t =>
    match rest with
    | x :: y :: rest =>
      if c = x then { l with lexeme := .word (y :: rest) t }
      else l.stop (.broken false (.both .expectedIdent))
    | [x] => if c = x then l.emit t else l.stop (.broken false (.both .expectedIdent))
    | [] => l.emit t
  | .number n =>
    match n.push? c with
    | some n => { l with lexeme := .number n }
    | none =>
      -- no digit follows a leading zero
      if n.phase.isComplete ∧ ¬ (n.phase = .zero ∧ isDigitByte c) then (l.emit n.token).start c
      else l.stop (.broken false (.both .invalidNumber))
  | .text t =>
    match t.step c with
    | .more t => { l with lexeme := .text t }
    | .done t@(.broken ..) => l.stop t
    | .done t => l.emit t

/-- The tokens at the end of the text. -/
def finish (l : Lexer) : List Token :=
  let l := match l.lexeme with
    | .between | .stopped => l
    | .word .. => l.stop (.broken false (.both .endOfValue))
    | .number n =>
      if n.phase.isComplete then l.emit n.token
      else l.stop (.broken false ⟨.endOfValue, .invalidNumber⟩)
    | .text t => l.stop (t.stop .endOfString)
  l.tokens.reverse

end Lexer

/-- The tokens of a text. -/
def Token.ofBytes (bytes : Bytes) : List Token := (bytes.foldl Lexer.step {}).finish

end SchemaCatalog
