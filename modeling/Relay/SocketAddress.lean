import Relay.Text.Ascii

/-!
Socket addresses: an IPv4 address or a bracketed IPv6 address, a colon, and a number up to 65535.
Unlike in URLs, IPv4 addresses are four decimals without leading zeros.
-/

namespace Relay.SocketAddress

abbrev Reader (α : Type) := List Char → Option (α × List Char)

def readNumber (radix bound : Nat) (maxDigits : Option Nat) (leadingZero : Bool) : Reader Nat := fun cs =>
  let digits := cs.takeWhile fun c => ((Ascii.hexValue? c).filter (· < radix)).isSome
  let value := digits.foldl (fun n c => radix * n + (Ascii.hexValue? c).getD 0) 0
  if digits.isEmpty ∨ maxDigits.any (· < digits.length) ∨ bound ≤ value then none
  else if !leadingZero ∧ digits.head? = some '0' ∧ digits.length > 1 then none
  else some (value, cs.drop digits.length)

def readChar (c : Char) (cs : List Char) : Option (List Char) :=
  match cs with
  | d :: rest => if d = c then some rest else none
  | [] => none

def readIpv4 : Reader (List Nat) := fun cs => do
  let (a, cs) ← readNumber 10 256 (some 3) false cs
  let (b, cs) ← readNumber 10 256 (some 3) false (← readChar '.' cs)
  let (c, cs) ← readNumber 10 256 (some 3) false (← readChar '.' cs)
  let (d, cs) ← readNumber 10 256 (some 3) false (← readChar '.' cs)
  return ([a, b, c, d], cs)

/-- Groups of an IPv6 address with colons between them, at most `limit` of them. An IPv4 address
counts as two and is the last: whether one was read comes with the number of groups. -/
def readGroups : Nat → Bool → List Char → Nat × Bool × List Char
  | 0, _, cs => (0, false, cs)
  | limit + 1, first, cs =>
    match if first then some cs else readChar ':' cs with
    | none => (0, false, cs)
    | some inner =>
      match if limit = 0 then none else readIpv4 inner with
      | some (_, rest) => (2, true, rest)
      | none =>
        match readNumber 16 65536 (some 4) true inner with
        | none => (0, false, cs)
        | some (_, rest) =>
          let (count, dotted, rest) := readGroups limit false rest
          (count + 1, dotted, rest)

def readIpv6 (cs : List Char) : Option (List Char) := do
  let (count, dotted, rest) := readGroups 8 true cs
  if count = 8 then return rest
  if dotted then none
  let rest ← readChar ':' rest
  let rest ← readChar ':' rest
  return (readGroups (7 - count) true rest).2.2

def isNumberEnd (cs : List Char) : Bool :=
  match readChar ':' cs with
  | none => false
  | some rest =>
    match readNumber 10 65536 none true rest with
    | some (_, []) => true
    | _ => false

def skipZone (cs : List Char) : List Char :=
  match cs with
  | '%' :: rest =>
    match readNumber 10 0x100000000 none true rest with
    | some (_, rest) => rest
    | none => cs
  | cs => cs

def isIpv6 (cs : List Char) : Bool :=
  match readChar '[' cs with
  | none => false
  | some rest =>
    match readIpv6 rest with
    | none => false
    | some rest =>
      match readChar ']' (skipZone rest) with
      | some rest => isNumberEnd rest
      | none => false

def isValid (s : String) : Bool :=
  (match readIpv4 s.toList with
    | some (_, rest) => isNumberEnd rest
    | none => false) || isIpv6 s.toList

end Relay.SocketAddress
