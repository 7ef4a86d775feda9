import Relay.Text.Ascii
import Relay.Text.Utf8

/-!
Percent-encoding of bytes: a byte outside a chosen set stands as `%` and two upper-case
hexadecimal digits. Reading leaves a `%` alone that two digits do not follow.
-/

namespace Relay.Percent

def escape (b : UInt8) : List Char :=
  ['%', Ascii.hexDigit (b.toNat / 16), Ascii.hexDigit (b.toNat % 16)]

def encode (reserved : Char → Bool) (cs : List Char) : List Char :=
  cs.flatMap fun c =>
    if c.toNat < 128 ∧ !reserved c then [c] else (String.utf8EncodeChar c).flatMap escape

def hexByte? (b : UInt8) : Option Nat :=
  if b.toNat < 128 then Ascii.hexValue? (Char.ofNat b.toNat) else none

def decode : Bytes → Bytes
  | 37 :: h :: l :: rest =>
    match hexByte? h, hexByte? l with
    | some x, some y => UInt8.ofNat (16 * x + y) :: decode rest
    | _, _ => 37 :: decode (h :: l :: rest)
  | b :: rest => b :: decode rest
  | [] => []

end Relay.Percent
