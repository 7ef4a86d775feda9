/-!
UTF-8 as lists of bytes: writing a text, reading one strictly, and reading one with each malformed
stretch replaced by `U+FFFD`. A stretch is the longest start of a well-formed sequence, or one byte
when there is none, so `E2 82 41` holds one stretch and the letter `A`.
-/

namespace Relay

abbrev Bytes := List UInt8

namespace Utf8

def encode (s : String) : Bytes :=
  s.toList.flatMap String.utf8EncodeChar

def isTail (b : UInt8) : Bool := 0x80 ≤ b.toNat && b.toNat < 0xC0

def tailBits (b : UInt8) : Nat := b.toNat - 0x80

/-- The second bytes that may follow the first byte `n`: shorter spellings, surrogates and values
above `U+10FFFF` are ruled out here. -/
def mayFollow (n : Nat) (b : UInt8) : Bool :=
  let low := if n = 0xE0 then 0xA0 else if n = 0xF0 then 0x90 else 0x80
  let high := if n = 0xED then 0xA0 else if n = 0xF4 then 0x90 else 0xC0
  low ≤ b.toNat && b.toNat < high

/-- Reads one character from a byte and those after it: the character, or `none` for a malformed
stretch, and the bytes that remain. -/
def step (b : UInt8) (rest : Bytes) : Option Char × Bytes :=
  let n := b.toNat
  if n < 0x80 then (some (Char.ofNat n), rest)
  else if n < 0xC2 ∨ 0xF5 ≤ n then (none, rest)
  else match rest with
    | [] => (none, [])
    | b₁ :: r₁ =>
      if !mayFollow n b₁ then (none, b₁ :: r₁)
      else if n < 0xE0 then (some (Char.ofNat ((n - 0xC0) * 64 + tailBits b₁)), r₁)
      else match r₁ with
        | [] => (none, [])
        | b₂ :: r₂ =>
          if !isTail b₂ then (none, b₂ :: r₂)
          else if n < 0xF0 then
            (some (Char.ofNat ((n - 0xE0) * 4096 + tailBits b₁ * 64 + tailBits b₂)), r₂)
          else match r₂ with
            | [] => (none, [])
            | b₃ :: r₃ =>
              if !isTail b₃ then (none, b₃ :: r₃)
              else (some (Char.ofNat
                ((n - 0xF0) * 262144 + tailBits b₁ * 4096 + tailBits b₂ * 64 + tailBits b₃)), r₃)

theorem step_length (b : UInt8) (rest : Bytes) : (step b rest).2.length ≤ rest.length := by
  simp only [step]
  repeat' split
  all_goals simp only [List.length_cons, List.length_nil]
  all_goals omega

def scan : Bytes → List (Option Char)
  | [] => []
  | b :: rest => (step b rest).1 :: scan (step b rest).2
termination_by bs => bs.length
decreasing_by
  have := step_length b rest
  simp only [List.length_cons]
  omega

def decode? (bs : Bytes) : Option String :=
  ((scan bs).mapM id).map String.ofList

def decodeLossy (bs : Bytes) : String :=
  String.ofList ((scan bs).map (·.getD '\uFFFD'))

end Relay.Utf8
