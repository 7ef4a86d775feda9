/-!
Punycode: a label with characters outside ASCII as a label inside it. The ASCII characters come
first, then for each other character, in increasing order, its distance from the one before as
digits of a number with varying bases.
-/

namespace Relay.Url.Punycode

def digitChar (d : Nat) : Char :=
  if d < 26 then Char.ofNat (97 + d) else Char.ofNat (22 + d)

def digitValue? (c : Char) : Option Nat :=
  let n := c.toNat
  if 97 ≤ n ∧ n ≤ 122 then some (n - 97)
  else if 65 ≤ n ∧ n ≤ 90 then some (n - 65)
  else if 48 ≤ n ∧ n ≤ 57 then some (n - 22)
  else none

/-- The least value that needs a further digit, at the digit of weight index `k`. -/
def threshold (k bias : Nat) : Nat :=
  if k ≤ bias then 1 else if bias + 26 ≤ k then 26 else k - bias

theorem threshold_pos (k bias : Nat) : 1 ≤ threshold k bias := by
  unfold threshold
  repeat' split
  all_goals omega

/-- Divides by 35 until the rest is small, counting 36 for each division. -/
def shrink (delta k : Nat) : Nat :=
  if 455 < delta then shrink (delta / 35) (k + 36) else k + 36 * delta / (delta + 38)
termination_by delta
decreasing_by omega

def adapt (delta count : Nat) (first : Bool) : Nat :=
  let scaled := if first then delta / 700 else delta / 2
  shrink (scaled + scaled / count) 0

def digits (bias k q : Nat) : List Char :=
  let t := threshold k bias
  if q < t then [digitChar q]
  else digitChar (t + (q - t) % (36 - t)) :: digits bias (k + 36) ((q - t) / (36 - t))
termination_by q
decreasing_by
  have := threshold_pos k bias
  have := Nat.div_le_self (q - threshold k bias) (36 - threshold k bias)
  omega

structure Encoder where
  out : List Char
  delta : Nat
  bias : Nat
  handled : Nat

def Encoder.pass (basic m : Nat) (e : Encoder) (c : Char) : Encoder :=
  if c.toNat < m then { e with delta := e.delta + 1 }
  else if c.toNat = m then
    { out := e.out ++ digits e.bias 36 e.delta
      delta := 0
      bias := adapt e.delta (e.handled + 1) (e.handled == basic)
      handled := e.handled + 1 }
  else e

def Encoder.run (label : List Char) (basic : Nat) : List Nat → Nat → Encoder → Encoder
  | [], _, e => e
  | m :: rest, n, e =>
    let e := { e with delta := e.delta + (m - n) * (e.handled + 1) }
    let e := label.foldl (Encoder.pass basic m) e
    Encoder.run label basic rest (m + 1) { e with delta := e.delta + 1 }

def encode (label : List Char) : List Char :=
  let basic := label.filter (·.toNat < 128)
  let others := (((label.filter (128 ≤ ·.toNat)).map Char.toNat).mergeSort (· ≤ ·)).eraseDups
  let start : Encoder := ⟨[], 0, 72, basic.length⟩
  (if basic.isEmpty then [] else basic ++ ['-']) ++ (Encoder.run label basic.length others 128 start).out

def distance? (bias k w i : Nat) : List Char → Option (Nat × List Char)
  | [] => none
  | c :: rest => do
    let d ← digitValue? c
    let t := threshold k bias
    let i := i + d * w
    if d < t then return (i, rest)
    distance? bias (k + 36) (w * (36 - t)) i rest

def insertAll : Nat → List Char → List Char → Nat → Nat → Nat → Option (List Char)
  | _, [], out, _, _, _ => some out
  | 0, _, _, _, _, _ => none
  | fuel + 1, cs, out, n, i, bias => do
    let (j, rest) ← distance? bias 36 1 i cs
    let length := out.length + 1
    let n := n + j / length
    if ¬n.isValidChar ∨ n < 128 then none
    let place := j % length
    insertAll fuel rest (out.take place ++ Char.ofNat n :: out.drop place) n (place + 1)
      (adapt (j - i) length (i == 0))

def decode? (cs : List Char) : Option (List Char) :=
  let tail := (cs.reverse.takeWhile (· ≠ '-')).reverse
  let basic := cs.take (cs.length - tail.length - 1)
  if cs.all (·.toNat < 128) then insertAll tail.length tail basic 128 0 72 else none

end Relay.Url.Punycode
