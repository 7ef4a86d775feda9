import Relay.Text.Utf8

/-!
Base64 with the alphabet `A–Z a–z 0–9 + /`. Reading is strict: groups of four, padded with `=`, no
blanks, and no set bits beyond the last byte, so each byte sequence has exactly one written form.
-/

namespace Relay.Base64

inductive DecodeError
  | invalidSymbol (byte : UInt8) (offset : Nat)
  | invalidLastSymbol (byte : UInt8) (offset : Nat)
  | invalidLength (length : Nat)
  | invalidPadding
deriving DecidableEq, Repr

def DecodeError.message : DecodeError → String
  | .invalidSymbol b offset => s!"Invalid symbol {b.toNat}, offset {offset}."
  | .invalidLastSymbol b offset => s!"Invalid last symbol {b.toNat}, offset {offset}."
  | .invalidLength n => s!"Invalid input length: {n}"
  | .invalidPadding => "Invalid padding"

def pad : UInt8 := 61

def symbol (n : Nat) : Char :=
  if n < 26 then Char.ofNat (65 + n)
  else if n < 52 then Char.ofNat (71 + n)
  else if n < 62 then Char.ofNat (n - 4)
  else if n = 62 then '+' else '/'

def value? (b : UInt8) : Option Nat :=
  let n := b.toNat
  if 65 ≤ n ∧ n ≤ 90 then some (n - 65)
  else if 97 ≤ n ∧ n ≤ 122 then some (n - 71)
  else if 48 ≤ n ∧ n ≤ 57 then some (n + 4)
  else if n = 43 then some 62
  else if n = 47 then some 63
  else none

def encodeChars : Bytes → List Char
  | a :: b :: c :: rest =>
    symbol (a.toNat / 4) :: symbol (a.toNat % 4 * 16 + b.toNat / 16) ::
      symbol (b.toNat % 16 * 4 + c.toNat / 64) :: symbol (c.toNat % 64) :: encodeChars rest
  | [a, b] =>
    [symbol (a.toNat / 4), symbol (a.toNat % 4 * 16 + b.toNat / 16), symbol (b.toNat % 16 * 4), '=']
  | [a] => [symbol (a.toNat / 4), symbol (a.toNat % 4 * 16), '=', '=']
  | [] => []

def encode (bs : Bytes) : String := String.ofList (encodeChars bs)

def valueAt (offset : Nat) (b : UInt8) : Except DecodeError Nat :=
  match value? b with
  | some n => .ok n
  | none => .error (.invalidSymbol b offset)

def group (a b c d : Nat) : Bytes :=
  [UInt8.ofNat (a * 4 + b / 16), UInt8.ofNat (b % 16 * 16 + c / 4), UInt8.ofNat (c % 4 * 64 + d)]

/-- The numbers before the padding of the last group, and the length of the padding. A pad at one
of the first two places, or before a symbol, is itself the offending symbol. -/
def lastSymbols (offset : Nat) : Nat → Bytes → Except DecodeError (List Nat × Nat)
  | _, [] => .ok ([], 0)
  | i, b :: rest =>
    if b = pad then
      if i < 2 then .error (.invalidSymbol b (offset + i))
      else if rest.all (· = pad) then .ok ([], 1 + rest.length)
      else .error (.invalidSymbol pad (offset + i))
    else do
      let n ← valueAt (offset + i) b
      let (ns, pads) ← lastSymbols offset (i + 1) rest
      return (n :: ns, pads)

def decodeLast (offset : Nat) (last : Bytes) : Except DecodeError Bytes := do
  let (symbols, pads) ← lastSymbols offset 0 last
  if last = [] then return []
  if symbols.length < 2 then throw (.invalidLength (offset + symbols.length))
  if (symbols.length + pads) % 4 ≠ 0 then throw .invalidPadding
  let stray := DecodeError.invalidLastSymbol (last.getD (symbols.length - 1) 0)
    (offset + symbols.length - 1)
  match symbols with
  | [a, b] => if b % 16 ≠ 0 then throw stray else return (group a b 0 0).take 1
  | [a, b, c] => if c % 4 ≠ 0 then throw stray else return (group a b c 0).take 2
  | [a, b, c, d] => return group a b c d
  | _ => return []

def decodeGroups (offset : Nat) : Bytes → Except DecodeError Bytes
  | a :: b :: c :: d :: e :: rest => do
    let va ← valueAt offset a
    let vb ← valueAt (offset + 1) b
    let vc ← valueAt (offset + 2) c
    let vd ← valueAt (offset + 3) d
    let bytes ← decodeGroups (offset + 4) (e :: rest)
    return group va vb vc vd ++ bytes
  | last => decodeLast offset last

/-- A single byte beyond the last full group that is neither symbol nor pad, such as a newline
at the end: it is reported before anything else. -/
def strayEnd? (input : Bytes) : Option DecodeError :=
  if input.length % 4 = 1 then
    input.getLast?.bind fun b =>
      if b ≠ pad ∧ value? b = none then some (.invalidSymbol b (input.length - 1)) else none
  else none

def decode (input : Bytes) : Except DecodeError Bytes :=
  match strayEnd? input with
  | some e => .error e
  | none => decodeGroups 0 input

def decodeText (s : String) : Except DecodeError Bytes := decode (Utf8.encode s)

end Relay.Base64
