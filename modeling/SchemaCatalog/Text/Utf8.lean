/-
  Faults in UTF-8
  ===============
  **Where bytes stop being UTF-8, and why.**

  The first byte of a character says how many bytes follow and in which
  range the next one must be; all others are between 80 and BF.  The first
  byte that does not fit makes the bytes of the character before it
  invalid, or itself if there are none.
-/
import SchemaCatalog.Json.Token

namespace SchemaCatalog

/-- A place where bytes are no text: how many characters' bytes stand before it, and how many
    bytes are wrong, or `none` if the bytes end inside a character. -/
structure Utf8Fault where
  index : Nat
  length? : Option Nat
deriving DecidableEq, Repr

def Utf8Fault.message (f : Utf8Fault) : String :=
  match f.length? with
  | some n =>
    "invalid utf-8 sequence of " ++ Nat.repr n ++ " bytes from index " ++ Nat.repr f.index
  | none => "incomplete utf-8 byte sequence from index " ++ Nat.repr f.index

namespace Utf8

/-- The ranges of the bytes that must follow a first byte. -/
def followers? (b : UInt8) : Option (List (UInt8 × UInt8)) :=
  let any : UInt8 × UInt8 := (0x80, 0xbf)
  if b < 0x80 then some []
  else if b < 0xc2 then none
  else if b < 0xe0 then some [any]
  else if b = 0xe0 then some [(0xa0, 0xbf), any]
  else if b = 0xed then some [(0x80, 0x9f), any]
  else if b < 0xf0 then some [any, any]
  else if b = 0xf0 then some [(0x90, 0xbf), any, any]
  else if b < 0xf4 then some [any, any, any]
  else if b = 0xf4 then some [(0x80, 0x8f), any, any]
  else none

/-- The first fault from the position `index` on; `pending` are the ranges of the bytes still
    missing of the character that starts at `start`. -/
def faultFrom? (index start : Nat) (pending : List (UInt8 × UInt8)) : Bytes → Option Utf8Fault
  | [] => if pending.isEmpty then none else some ⟨start, none⟩
  | b :: rest =>
    match pending with
    | [] =>
      match followers? b with
      | some pending => faultFrom? (index + 1) index pending rest
      | none => some ⟨index, some 1⟩
    | (low, high) :: pending =>
      if low ≤ b ∧ b ≤ high then faultFrom? (index + 1) start pending rest
      else some ⟨start, some (index - start)⟩

end Utf8

/-- The text that bytes spell, or where they stop being text. -/
def Bytes.toText (bytes : Bytes) : Except Utf8Fault String :=
  match Utf8.faultFrom? 0 0 [] bytes, bytes.toString? with
  | none, some s => .ok s
  | some f, _ => .error f
  | none, none => .error ⟨0, none⟩

end SchemaCatalog
