/-!
Case of ASCII letters, and hexadecimal digits. No character outside ASCII is ever changed, so two
texts that differ in an accented letter stay different.
-/

namespace Relay.Ascii

def lower (s : String) : String :=
  String.ofList (s.toList.map Char.toLower)

def upper (s : String) : String :=
  String.ofList (s.toList.map Char.toUpper)

def sameName (a b : String) : Bool :=
  lower a == lower b

theorem sameName_iff (a b : String) : sameName a b = true ↔ lower a = lower b := by
  simp [sameName]

theorem sameName_refl (a : String) : sameName a a = true := by
  simp [sameName]

theorem sameName_comm (a b : String) : sameName a b = sameName b a := by
  simp only [sameName, BEq.comm]

def hexDigit (n : Nat) : Char :=
  if n < 10 then Char.ofNat (48 + n) else Char.ofNat (55 + n)

def hexDigitLower (n : Nat) : Char :=
  if n < 10 then Char.ofNat (48 + n) else Char.ofNat (87 + n)

def hexValue? (c : Char) : Option Nat :=
  if '0' ≤ c ∧ c ≤ '9' then some (c.toNat - 48)
  else if 'A' ≤ c ∧ c ≤ 'F' then some (c.toNat - 55)
  else if 'a' ≤ c ∧ c ≤ 'f' then some (c.toNat - 87)
  else none

def isHexDigit (c : Char) : Bool := (hexValue? c).isSome

def hexText (n : Nat) : String :=
  String.ofList (Nat.toDigits 16 n)

def decimal? (cs : List Char) : Option Nat :=
  if cs.isEmpty || !cs.all Char.isDigit then none
  else some (cs.foldl (fun n c => 10 * n + (c.toNat - 48)) 0)

end Relay.Ascii
