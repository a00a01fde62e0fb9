/-
  Formats
  =======
  **What texts of a named format look like.**

  Most formats are patterns; dates must also be in the calendar, moments on
  the clock.  A name that is not listed says nothing about a text.
-/
import SchemaCatalog.Calendar
import SchemaCatalog.Pattern.Reader
import SchemaCatalog.Url.Reader

namespace SchemaCatalog.Format

/-- Whether a text matches a pattern. -/
def hasPattern (pattern s : String) : Bool :=
  match Pattern.read pattern with
  | some p => p.occursIn s
  | none => false

/-! ### Dates and times -/

/-- The number that exactly `count` digits give in front of a text, and the text behind. -/
def digits? (count : Nat) (l : List Char) : Option (Nat × List Char) :=
  let front := l.take count
  if front.length = count ∧ front.all Char.isDigit then (numeral? 10 front).map (·, l.drop count)
  else none

/-- The text behind one of some characters. -/
def behind? (chars l : List Char) : Option (List Char) :=
  match l with
  | c :: rest => if c ∈ chars then some rest else none
  | [] => none

/-- A day of the calendar in front of a text: year, month, day. -/
def day? (l : List Char) : Option ((Nat × Nat × Nat) × List Char) := do
  let (year, l) ← digits? 4 l
  let (month, l) ← digits? 2 (← behind? ['-'] l)
  let (day, l) ← digits? 2 (← behind? ['-'] l)
  if 1 ≤ month ∧ month ≤ 12 ∧ 1 ≤ day ∧ day ≤ daysInMonth year month then
    return ((year, month, day), l)
  else none

def isDate (s : String) : Bool :=
  match day? s.toList with
  | some (_, []) => true
  | _ => false

/-- The fraction of a second in front of a text, which may be missing. -/
def behindFraction? (l : List Char) : Option (List Char) :=
  match l with
  | '.' :: rest => if (rest.takeWhile Char.isDigit).isEmpty then none
    else some (rest.dropWhile Char.isDigit)
  | l => some l

/-- The minutes by which a zone is ahead of the zero meridian. -/
def zone? (l : List Char) : Option Int :=
  match l with
  | ['Z'] | ['z'] => some 0
  | sign :: rest => do
    let (hours, rest) ← digits? 2 rest
    let (minutes, rest) ← digits? 2 (← behind? [':'] rest)
    let offset : Int := 60 * hours + minutes
    if rest ≠ [] ∨ 23 < hours ∨ 59 < minutes then none
    else if sign = '+' then return offset
    else if sign = '-' then return -offset
    else none
  | [] => none

/-- Whether a minute is the last one of a month, where a 61st second may be; `minute` counts
    from the start of the day at the zero meridian and may lie in a day beside it. -/
def endsMonth (year month day : Nat) (minute : Int) : Bool :=
  let lastDay := daysInMonth year month
  (day = lastDay && minute = 1439) || (day + 1 = lastDay && minute = 2879) ||
    (day = 1 && minute = -1)

/-- A day, a time on the clock and a zone. -/
def moment? (l : List Char) : Option Unit := do
  let ((year, month, day), l) ← day? l
  let (hour, l) ← digits? 2 (← behind? ['T', 't'] l)
  let (minute, l) ← digits? 2 (← behind? [':'] l)
  let (second, l) ← digits? 2 (← behind? [':'] l)
  let offset ← zone? (← behindFraction? l)
  if 23 < hour ∨ 59 < minute then none
  else if second ≤ 59 then return ()
  else if second = 60 ∧ endsMonth year month day (60 * hour + minute - offset) then return ()
  else none

/-! ### Names of hosts and mailboxes -/

def isHostname (s : String) : Bool :=
  let l := s.toList
  l ≠ [] && l.head? ≠ some '-' && l.getLast? ≠ some '-' && l.length ≤ 255 &&
    l.all (fun c => isAlphanumeric c || c = '-' || c = '.') &&
    (l.splitOn '.').all fun label => label.length ≤ 63

/-- Whether the first mark of a mailbox stands behind something that is no point; no two points
    may stand together before it. -/
def hasMailbox : List Char → Bool
  | '.' :: '.' :: _ | '.' :: '@' :: _ => false
  | _ :: '@' :: _ => true
  | _ :: rest => hasMailbox rest
  | [] => false

def isMailAddress (s : String) : Bool := s.toList.head? ≠ some '.' && hasMailbox s.toList

/-! ### Formats by name -/

def isUrl (s : String) : Bool := (Url.read none s).isOk

/-- Whether a text has the form of a reference: no blank and no backslash in it. -/
def isReference (s : String) : Bool :=
  s.toList.all fun c => c ≠ '\\' && !Text.isWhitespace c

def isIpv4 (s : String) : Bool := s.toList.head? ≠ some '0' && (Ipv4.ofText? s.toList).isSome

/-- The pattern of a name in a template, with what may follow it. -/
def templateVariable : String :=
  "(?:[a-z0-9_]|%[0-9a-f]\x7b2\x7d)+(?::[1-9][0-9]\x7b0,3\x7d|\\*)?"

/-- The patterns of formats. -/
def patterns : List (String × String) := [
  ("time", "^([01][0-9]|2[0-3]):[0-5][0-9]:[0-5][0-9](\\.[0-9]\x7b6\x7d)?" ++
    "([Zz]|([+|\\-]([01][0-9]|2[0-3]):[0-5][0-9]))\\z"),
  ("json-pointer", "^(/(([^/~])|(~[01]))*)*\\z"),
  ("relative-json-pointer", "^(?:0|[1-9][0-9]*)(?:#|(?:/(?:[^~/]|~0|~1)*)*)\\z"),
  ("uri-template",
    "^(?:(?:[^\\x00-\\x20\"'<>%\\\\^\x60\x7b|\x7d]|%[0-9a-f]\x7b2\x7d)|\\\x7b[+#./;?&=,!@|]?" ++
    templateVariable ++ "(?:," ++ templateVariable ++ ")*\\\x7d)*\\z")]

/-- Whether a text has the format named, if there is one of this name. -/
def holds? (name s : String) : Option Bool :=
  match name with
  | "date" => some (isDate s)
  | "date-time" => some (moment? s.toList).isSome
  | "email" | "idn-email" => some (isMailAddress s)
  | "hostname" | "idn-hostname" => some (isHostname s)
  | "ipv4" => some (isIpv4 s)
  | "ipv6" => some (Ipv6.ofText? s.toList).isSome
  | "uri" | "iri" => some (isUrl s)
  | "uri-reference" | "iri-reference" => some (isReference s)
  | "regex" => some (Pattern.readPlain s).isSome
  | name => (patterns.lookup name).map (hasPattern · s)

end SchemaCatalog.Format
