/-
QueryCache.Unicode.Utf8 — characters as UTF-8 bytes and back.

`Utf8.encode` writes the bytes of a text, `Utf8.decode` reads them.  The
reader is a machine that owes so many continuation bytes, the next of
which lies between two bounds; the bounds rule out overlong forms,
surrogates and code points beyond U+10FFFF at the second byte.
-/
import QueryCache.Text.Basic

namespace QueryCache.Utf8

/-- The bytes of one character. -/
def encodeChar (c : Char) : List Nat :=
  let n := c.toNat
  if n < 0x80 then [n]
  else if n < 0x800 then [0xC0 + n / 0x40, 0x80 + n % 0x40]
  else if n < 0x10000 then [0xE0 + n / 0x1000, 0x80 + n / 0x40 % 0x40, 0x80 + n % 0x40]
  else [0xF0 + n / 0x40000, 0x80 + n / 0x1000 % 0x40, 0x80 + n / 0x40 % 0x40, 0x80 + n % 0x40]

/-- The bytes of a text. -/
def encode (text : Text) : List Nat :=
  text.flatMap encodeChar

/-- A character begun: the bits read so far, the continuation bytes owed,
and the bounds of the next one. -/
structure Pending where
  bits : Nat
  owed : Nat
  low : Nat
  high : Nat

/-- What a first byte of a longer character begins. -/
def Pending.ofFirst? (byte : Nat) : Option Pending :=
  if 0xC2 ≤ byte ∧ byte ≤ 0xDF then some ⟨byte - 0xC0, 1, 0x80, 0xBF⟩
  else if byte = 0xE0 then some ⟨0, 2, 0xA0, 0xBF⟩
  else if byte = 0xED then some ⟨0xD, 2, 0x80, 0x9F⟩
  else if 0xE1 ≤ byte ∧ byte ≤ 0xEF then some ⟨byte - 0xE0, 2, 0x80, 0xBF⟩
  else if byte = 0xF0 then some ⟨0, 3, 0x90, 0xBF⟩
  else if 0xF1 ≤ byte ∧ byte ≤ 0xF3 then some ⟨byte - 0xF0, 3, 0x80, 0xBF⟩
  else if byte = 0xF4 then some ⟨4, 3, 0x80, 0x8F⟩
  else none

/-- Reads bytes with a character begun, or between characters. -/
def decodeFrom : Option Pending → List Nat → Option Text
  | none, [] => some []
  | some _, [] => none
  | none, byte :: rest =>
    if byte < 0x80 then (decodeFrom none rest).map (Char.ofNat byte :: ·)
    else match Pending.ofFirst? byte with
      | some pending => decodeFrom (some pending) rest
      | none => none
  | some pending, byte :: rest =>
    if pending.low ≤ byte ∧ byte ≤ pending.high then
      let bits := pending.bits * 0x40 + (byte - 0x80)
      if pending.owed ≤ 1 then (decodeFrom none rest).map (Char.ofNat bits :: ·)
      else decodeFrom (some ⟨bits, pending.owed - 1, 0x80, 0xBF⟩) rest
    else none

/-- The text of a byte sequence, none when it is not UTF-8. -/
def decode (bytes : List Nat) : Option Text :=
  decodeFrom none bytes

end QueryCache.Utf8
