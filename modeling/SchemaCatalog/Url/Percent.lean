/-
  Percent encoding
  ================
  **Bytes of a text written as `%` and two hexadecimal digits.**

  Decoding replaces every such triple by its byte and leaves everything else
  as it is, so it never fails.  What is encoded depends on the part of a URL
  that a text stands in: always the control characters and everything beyond
  ASCII, and a list of reserved characters for each part.
-/
import SchemaCatalog.Json.Token

namespace SchemaCatalog.Percent

/-- Replaces every `%` with two hexadecimal digits by the byte that they give. -/
def decode : Bytes → Bytes
  | a :: b :: c :: rest =>
    if a = byte '%' then
      match hexValue? b, hexValue? c with
      | some b, some c => (16 * b + c).toUInt8 :: decode rest
      | _, _ => a :: decode (b :: c :: rest)
    else a :: decode (b :: c :: rest)
  | short => short

/-- A byte as `%` and two upper-case hexadecimal digits. -/
def encodedByte (b : UInt8) : String :=
  let digit (n : Nat) : Char := (Nat.digitChar n).toUpper
  String.ofList ['%', digit (b.toNat / 16), digit (b.toNat % 16)]

def encodeChar (reserved : List Char) (c : Char) : String :=
  if c.toNat < 0x20 ∨ 0x7f ≤ c.toNat ∨ c ∈ reserved then
    String.join ((Bytes.ofString (String.singleton c)).map encodedByte)
  else String.singleton c

/-- Encodes the control characters, the characters beyond ASCII, and those of `reserved`. -/
def encode (reserved : List Char) (s : String) : String :=
  String.join (s.toList.map (encodeChar reserved))

/-! ### The parts of a URL -/

/-- Reserved in a fragment. -/
def inFragment : List Char := [' ', '"', '<', '>', '\x60']

/-- Reserved in a query. -/
def inQuery : List Char := [' ', '"', '#', '<', '>']

/-- Reserved in a path. -/
def inPath : List Char := inFragment ++ ['#', '?', '\x7b', '\x7d']

/-- Reserved in the name of a user and in a password. -/
def inUser : List Char := inPath ++ ['/', ':', ';', '=', '@', '[', '\\', ']', '^', '|']

end SchemaCatalog.Percent
