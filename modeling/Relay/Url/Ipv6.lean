import Relay.Text.Ascii

/-!
IPv6 addresses: eight pieces of sixteen bits, in hexadecimal between colons. One run of zero pieces
may be left out, and the last two pieces may be written as an IPv4 address. In the written form the
first longest run of at least two zero pieces is left out.
-/

namespace Relay.Url.Ipv6

/-- The pieces read so far, and the place of the run that was left out. A run that is left out
counts as one piece, so that it always stands for a piece at least. -/
structure Draft where
  pieces : List Nat
  gap : Option Nat

def dotted? (cs : List Char) : Option (List Nat) := do
  let parts := cs.splitOn '.'
  if parts.length ≠ 4 then none
  parts.mapM fun p => do
    let n ← Ascii.decimal? p
    if n > 255 ∨ (p.length > 1 ∧ p.head? = some '0') then none
    return n

def read : Nat → List Char → Draft → Option Draft
  | _, [], d => some d
  | 0, _, _ => none
  | fuel + 1, cs, d =>
    if d.pieces.length ≥ 8 then none
    else
      match cs with
      | ':' :: rest =>
        if d.gap.isSome then none
        else read fuel rest ⟨d.pieces ++ [0], some (d.pieces.length + 1)⟩
      | cs =>
        let digits := (cs.take 4).takeWhile Ascii.isHexDigit
        let value := digits.foldl (fun n c => 16 * n + (Ascii.hexValue? c).getD 0) 0
        match cs.drop digits.length with
        | [] => some ⟨d.pieces ++ [value], d.gap⟩
        | '.' :: _ =>
          if digits.isEmpty ∨ d.pieces.length > 6 then none
          else
            match dotted? cs with
            | some [a, b, c, e] => some ⟨d.pieces ++ [256 * a + b, 256 * c + e], d.gap⟩
            | _ => none
        | ':' :: rest =>
          if rest.isEmpty then none else read fuel rest ⟨d.pieces ++ [value], d.gap⟩
        | _ => none

def draft? (cs : List Char) : Option Draft :=
  match cs with
  | ':' :: more =>
    match more with
    | ':' :: rest => read cs.length rest ⟨[0], some 1⟩
    | _ => none
  | cs => if cs.length < 2 then none else read cs.length cs ⟨[], none⟩

def Draft.filled? (d : Draft) : Option (List Nat) :=
  match d.gap with
  | some g => some (d.pieces.take g ++ List.replicate (8 - d.pieces.length) 0 ++ d.pieces.drop g)
  | none => if d.pieces.length = 8 then some d.pieces else none

def parse? (cs : List Char) : Option (List UInt16) :=
  ((draft? cs).bind Draft.filled?).map fun (pieces : List Nat) => pieces.map UInt16.ofNat

def zeroRun (ps : List UInt16) : Nat := (ps.takeWhile (· == 0)).length

/-- The first longest run of at least two zeros: where it starts and how long it is. -/
def longestRun (ps : List UInt16) : Option (Nat × Nat) :=
  (List.range ps.length).foldl (fun best i =>
    let run := zeroRun (ps.drop i)
    if run ≥ 2 ∧ (best.map (·.2)).getD 0 < run then some (i, run) else best) none

def pieceText (p : UInt16) : List Char := Nat.toDigits 16 p.toNat

def joined (ps : List UInt16) : List Char := [':'].intercalate (ps.map pieceText)

def text (ps : List UInt16) : String :=
  match longestRun ps with
  | none => String.ofList (joined ps)
  | some (start, run) =>
    String.ofList (joined (ps.take start) ++ [':', ':'] ++ joined (ps.drop (start + run)))

end Relay.Url.Ipv6
