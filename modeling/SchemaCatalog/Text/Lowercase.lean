/-
  Lower case
  ==========
  **The lower-case form of a text.**

  Each character has a lower-case form of its own, with two exceptions of
  the Unicode default case conversion: `İ` becomes two characters, and `Σ`
  becomes `ς` at the end of a word.  A `Σ` ends a word when, characters
  that case ignores left out, a cased character stands before it and none
  after it.
-/
import SchemaCatalog.Text.CaseTable

namespace SchemaCatalog

/-- The lower-case code point by the first run that has `code`, or `code` itself. -/
def lowerCode (code : Nat) : List CaseRun → Nat
  | [] => code
  | r :: rest =>
    if code < r.first then code
    else if code ≤ r.last ∧ (code - r.first) % r.step = 0 then (code + r.offset).toNat
    else lowerCode code rest

/-- The lower-case form of a character where no context matters. -/
def lowerChar (c : Char) : List Char :=
  if c = 'İ' then ['i', Char.ofNat 0x307]
  else if c.toNat < 0x80 then [c.toLower]
  else [Char.ofNat (lowerCode c.toNat lowercaseRuns)]

/-- Whether the first character that case does not ignore is cased. -/
def startsCased (l : List Char) : Bool :=
  match l.dropWhile fun c => caseIgnorableRanges.has c.toNat with
  | [] => false
  | c :: _ => casedRanges.has c.toNat

/-- The lower-case form of a list of characters; `before` are the ones that precede it,
    latest first. -/
def lowerChars (before : List Char) : List Char → List Char
  | [] => []
  | c :: rest =>
    let form :=
      if c = 'Σ' then [if startsCased before && !startsCased rest then 'ς' else 'σ']
      else lowerChar c
    form ++ lowerChars (c :: before) rest

def lowercase (s : String) : String := String.ofList (lowerChars [] s.toList)

end SchemaCatalog
