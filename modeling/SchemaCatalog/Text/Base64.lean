/-
  Base 64
  =======
  **Bytes written with 64 characters, six bits in each.**

  Four characters stand for three bytes.  A last group of two or three
  characters is filled up with `=` and stands for one or two bytes; the bits
  that are left over must be zero, so every list of bytes is written in one
  way only.
-/
import SchemaCatalog.Json.Token

namespace SchemaCatalog.Base64

/-- The six bits that a character stands for. -/
def value? (c : Char) : Option Nat :=
  if 'A' ≤ c ∧ c ≤ 'Z' then some (c.toNat - 'A'.toNat)
  else if 'a' ≤ c ∧ c ≤ 'z' then some (c.toNat - 'a'.toNat + 26)
  else if '0' ≤ c ∧ c ≤ '9' then some (c.toNat - '0'.toNat + 52)
  else if c = '+' then some 62
  else if c = '/' then some 63
  else none

/-- The bytes of a number, `count` of them. -/
def bytesOf (count n : Nat) : Bytes :=
  (List.range count).map fun i => (n / Nat.pow 256 (count - 1 - i) % 256).toUInt8

/-- The bytes that a text stands for. -/
def decode? : List Char → Option Bytes
  | [] => some []
  | [a, b, '=', '='] => do
    let n := 64 * (← value? a) + (← value? b)
    if n % 16 = 0 then return bytesOf 1 (n / 16) else none
  | [a, b, c, '='] => do
    let n := 64 * (64 * (← value? a) + (← value? b)) + (← value? c)
    if n % 4 = 0 then return bytesOf 2 (n / 4) else none
  | a :: b :: c :: d :: rest => do
    let n := 64 * (64 * (64 * (← value? a) + (← value? b)) + (← value? c)) + (← value? d)
    return bytesOf 3 n ++ (← decode? rest)
  | _ => none

end SchemaCatalog.Base64
