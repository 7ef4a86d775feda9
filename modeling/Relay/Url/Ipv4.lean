import Relay.Text.Ascii

/-!
IPv4 addresses as a host spells them: one to four numbers, decimal, octal after `0` or hexadecimal
after `0x`, the last one filling the bytes that are left. An address is written as four decimals.
-/

namespace Relay.Url.Ipv4

/-- A number of an address; `none` if the text is none, and `some none` if it exceeds 32 bits. -/
def number? (cs : List Char) : Option (Option Nat) :=
  let (radix, digits) : Nat × List Char :=
    match cs with
    | '0' :: 'x' :: rest => (16, rest)
    | '0' :: 'X' :: rest => (16, rest)
    | '0' :: d :: rest => (8, d :: rest)
    | _ => (10, cs)
  if cs.isEmpty then none
  else
    match digits.mapM fun c => (Ascii.hexValue? c).filter (· < radix) with
    | none => none
    | some ds =>
      let n := ds.foldl (fun n d => radix * n + d) 0
      some (if n < 0x100000000 then some n else none)

def labels (cs : List Char) : List (List Char) :=
  let parts := cs.splitOn '.'
  if parts.getLast? = some [] then parts.dropLast else parts

def endsInNumber (cs : List Char) : Bool :=
  match (labels cs).getLast? with
  | none => false
  | some last => (!last.isEmpty && last.all Char.isDigit) || (number? last).isSome

def parse? (cs : List Char) : Option UInt32 := do
  let parts := labels cs
  if parts.length > 4 then none
  let numbers ← parts.mapM fun p => (number? p).join
  let last ← numbers.getLast?
  let heads := numbers.dropLast
  if Nat.pow 256 (4 - heads.length) ≤ last ∨ heads.any (· > 255) then none
  let high := heads.foldl (fun n h => 256 * n + h) 0
  return UInt32.ofNat (high * Nat.pow 256 (4 - heads.length) + last)

def text (a : UInt32) : String :=
  let n := a.toNat
  s!"{n / 16777216}.{n / 65536 % 256}.{n / 256 % 256}.{n % 256}"

end Relay.Url.Ipv4
