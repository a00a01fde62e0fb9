/-
  Hosts
  =====
  **The host in a URL: a name, or an address of the Internet Protocol.**

  An address of version 4 is four numbers below 256, one of version 6 eight
  groups of 16 bits, of which a run of zeros may be written as `::` and the
  last two as an address of version 4.  In the URLs of the web the name is
  read generously: it may be percent encoded, its case does not matter, and
  an address of version 4 may have fewer parts and other bases.
-/
import SchemaCatalog.Url.Percent

namespace SchemaCatalog

/-- Why a text is no URL. -/
inductive UrlError where
  | emptyHost
  | invalidName
  | invalidPort
  | invalidIpv4
  | invalidIpv6
  | invalidHostCharacter
  | relativeWithoutBase
  /-- The base has a path that nothing can be relative to. -/
  | relativeToPlain
deriving DecidableEq, Repr

def UrlError.message : UrlError → String
  | emptyHost => "empty host"
  | invalidName => "invalid international domain name"
  | invalidPort => "invalid port number"
  | invalidIpv4 => "invalid IPv4 address"
  | invalidIpv6 => "invalid IPv6 address"
  | invalidHostCharacter => "invalid domain character"
  | relativeWithoutBase => "relative URL without a base"
  | relativeToPlain => "relative URL with a cannot-be-a-base base"

/-- The number that digits give in a base, or `none` if one of them is no digit there.  No
    digits give no number. -/
def numeral? (base : Nat) (l : List Char) : Option Nat := do
  let digits ← l.mapM fun c => if c.toNat < 0x80 then hexValue? (byte c) else none
  if l ≠ [] ∧ digits.all (· < base) then return digits.foldl (fun n d => base * n + d) 0 else none

/-! ### Version 4 -/

namespace Ipv4

/-- One of four decimal numbers, without a zero in front. -/
def octet? (l : List Char) : Option Nat := do
  let n ← numeral? 10 l
  if n < 256 ∧ l.length ≤ 3 ∧ (l.length = 1 ∨ l.head? ≠ some '0') then return n else none

/-- Four decimal numbers with points between them. -/
def ofText? (l : List Char) : Option (List Nat) := do
  let octets ← (l.splitOn '.').mapM octet?
  if octets.length = 4 then return octets else none

/-- A number in base ten, in base eight with a zero in front, or in base sixteen with `0x`. -/
def part? (l : List Char) : Option Nat :=
  match l with
  | ['0'] => some 0
  | ['0', 'x'] | ['0', 'X'] => some 0
  | '0' :: 'x' :: rest | '0' :: 'X' :: rest => numeral? 16 rest
  | '0' :: rest => numeral? 8 rest
  | l => numeral? 10 l

/-- The parts of a name, without an empty one at its end. -/
def parts (l : List Char) : List (List Char) :=
  let parts := l.splitOn '.'
  if 1 < parts.length ∧ parts.getLast? = some [] then parts.dropLast else parts

/-- Whether a name can only be meant as an address. -/
def isMeant (l : List Char) : Bool :=
  match (parts l).getLast? with
  | some last => (last ≠ [] && last.all Char.isDigit) || (part? last).isSome
  | none => false

/-- An address of up to four parts.  The last part fills the places that are left. -/
def ofParts? (l : List Char) : Option (List Nat) := do
  let numbers ← (parts l).mapM part?
  let last ← numbers.getLast?
  let first := numbers.dropLast
  let places := 4 - first.length
  if 4 < numbers.length ∨ first.any (255 < ·) ∨ Nat.pow 256 places ≤ last then none
  else return first ++ (List.range places).map fun i => last / Nat.pow 256 (places - 1 - i) % 256

end Ipv4

/-! ### Version 6 -/

namespace Ipv6

/-- One to four hexadecimal digits. -/
def group? (l : List Char) : Option Nat := if l.length ≤ 4 then numeral? 16 l else none

/-- Groups with colons between them; `last` says whether the last two may be an address of
    version 4. -/
def groups? (last : Bool) (l : List Char) : Option (List Nat) :=
  if l = [] then some []
  else do
    let parts := l.splitOn ':'
    match (if last then parts.getLast? else none).bind Ipv4.ofText? with
    | some octets =>
      let front ← parts.dropLast.mapM group?
      return front ++ pairs octets
    | none => parts.mapM group?
where
  pairs : List Nat → List Nat
    | a :: b :: rest => (256 * a + b) :: pairs rest
    | _ => []

/-- The text before and after the first double colon. -/
def atDoubleColon : List Char → Option (List Char × List Char)
  | ':' :: ':' :: rest => some ([], rest)
  | c :: rest => (atDoubleColon rest).map fun (front, back) => (c :: front, back)
  | [] => none

/-- Eight groups, or fewer with a double colon for the zeros between them. -/
def ofText? (l : List Char) : Option (List Nat) :=
  match atDoubleColon l with
  | none => do
    let groups ← groups? true l
    if groups.length = 8 then return groups else none
  | some (front, back) => do
    let front ← groups? false front
    let back ← groups? true back
    if front.length + back.length ≤ 7 then
      return front ++ List.replicate (8 - front.length - back.length) 0 ++ back
    else none

/-- The length of the zeros in front. -/
def zeros (l : List Nat) : Nat := (l.takeWhile (· = 0)).length

/-- The length of the longest run of zeros. -/
def longestZeros : List Nat → Nat
  | [] => 0
  | g :: rest => max (zeros (g :: rest)) (longestZeros rest)

def hexadecimal (n : Nat) : String := String.ofList (Nat.toDigits 16 n)

def joined (l : List Nat) : String := ":".intercalate (l.map hexadecimal)

/-- The groups, with the first of the longest runs of two or more zeros as a double colon. -/
def text (l : List Nat) : String :=
  let longest := longestZeros l
  match (List.range l.length).find? fun i => zeros (l.drop i) = longest with
  | some i =>
    if longest < 2 then joined l else joined (l.take i) ++ "::" ++ joined (l.drop (i + longest))
  | none => joined l

end Ipv6

/-! ### Hosts -/

inductive Host where
  | name (text : String)
  | ipv4 (octets : List Nat)
  | ipv6 (groups : List Nat)
deriving DecidableEq, Repr

namespace Host

def text : Host → String
  | name text => text
  | ipv4 octets => ".".intercalate (octets.map Nat.repr)
  | ipv6 groups => "[" ++ Ipv6.text groups ++ "]"

/-- The characters that no name of a host may contain. -/
def forbidden : List Char :=
  [Char.ofNat 0, '\t', '\n', '\r', ' ', '#', '/', ':', '<', '>', '?', '@', '[', '\\', ']', '^', '|']

/-- An address between brackets. -/
def bracketed (l : List Char) : Except UrlError Host :=
  if l.getLast? ≠ some ']' then .error .invalidIpv6
  else
    match Ipv6.ofText? l.tail.dropLast with
    | some groups => .ok (.ipv6 groups)
    | none => .error .invalidIpv6

/-- A host as it stands, in a URL that is not of the web. -/
def ofText (l : List Char) : Except UrlError Host :=
  if l.head? = some '[' then bracketed l
  else if l.any (· ∈ forbidden) then .error .invalidHostCharacter
  else .ok (.name (Percent.encode [] (String.ofList l)))

/-- A host in a URL of the web. -/
def ofWebText (l : List Char) : Except UrlError Host :=
  if l.head? = some '[' then bracketed l
  else
    match Bytes.toString? (Percent.decode (Bytes.ofString (String.ofList l))) with
    | none => .error .invalidName
    | some text =>
      let l := text.toList.map Char.toLower
      if l = [] then .error .emptyHost
      else if l.any fun c => c.toNat < 0x20 ∨ c.toNat = 0x7f ∨ c = '%' ∨ c ∈ forbidden then
        .error .invalidName
      else if Ipv4.isMeant l then
        match Ipv4.ofParts? l with
        | some octets => .ok (.ipv4 octets)
        | none => .error .invalidIpv4
      else .ok (.name (String.ofList l))

end Host

end SchemaCatalog
