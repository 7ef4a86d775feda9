/-!
Numbers with 53 significant bits, exactly: a sign, a whole number and a power of two. Every
operation computes the true result and rounds it once, to the nearest such number and a half to the
even one; `none` stands for a result too large to represent.
-/

namespace Relay

/-- The number `± mantissa · 2 ^ exponent`. In numbers made here the mantissa has 53 bits, or the
exponent is the least one, -1074. -/
structure Binary64 where
  negative : Bool := false
  mantissa : Nat
  exponent : Int
deriving DecidableEq, Repr

namespace Binary64

def zero : Binary64 := ⟨false, 0, -1074⟩

def isZero (x : Binary64) : Bool := x.mantissa == 0

/-- A quotient rounded to a whole number, a half to the even neighbour. -/
def roundDiv (num den : Nat) : Nat :=
  let q := num / den
  let r := num % den
  if 2 * r < den ∨ (2 * r = den ∧ q % 2 = 0) then q else q + 1

def scaled (num den : Nat) (x : Int) : Nat × Nat :=
  if 0 ≤ x then (num, den * Nat.pow 2 x.toNat) else (num * Nat.pow 2 (-x).toNat, den)

def ofRatio? (num den : Nat) : Option Binary64 :=
  if num = 0 then some zero
  else
    let low : Int := (num.log2 : Int) - den.log2 - 53
    let (n, d) := scaled num den low
    let x := max (if n / d < 0x20000000000000 then low else low + 1) (-1074)
    let (n, d) := scaled num den x
    let m := roundDiv n d
    let (m, x) := if m = 0x20000000000000 then (0x10000000000000, x + 1) else (m, x)
    if x > 971 then none else some ⟨false, m, x⟩

def ratio (x : Binary64) : Nat × Nat :=
  if 0 ≤ x.exponent then (x.mantissa * Nat.pow 2 x.exponent.toNat, 1)
  else (x.mantissa, Nat.pow 2 (-x.exponent).toNat)

def pow10? (k : Nat) : Option Binary64 := ofRatio? (Nat.pow 10 k) 1

def mul? (x y : Binary64) : Option Binary64 :=
  let (a, b) := x.ratio
  let (c, d) := y.ratio
  ofRatio? (a * c) (b * d)

def div? (x y : Binary64) : Option Binary64 :=
  let (a, b) := x.ratio
  let (c, d) := y.ratio
  ofRatio? (a * d) (b * c)

/-! ### Shortest decimal -/

def decimalRatio (c : Nat) (k : Int) : Nat × Nat :=
  if 0 ≤ k then (c * Nat.pow 10 k.toNat, 1) else (c, Nat.pow 10 (-k).toNat)

def ofDecimal? (c : Nat) (k : Int) : Option Binary64 :=
  let (n, d) := decimalRatio c k
  ofRatio? n d

def leadingExponent (num den : Nat) : Int :=
  if den ≤ num then ((Nat.toDigits 10 (num / den)).length : Int) - 1
  else
    match (List.range 400).find? fun t => den ≤ num * Nat.pow 10 (t + 1) with
    | some t => -((t : Int) + 1)
    | none => 0

/-- The decimal with `count` digits that reads back as `x` and lies nearest to it, if there is one:
its digits as a whole number, and the power of ten. Of two that lie equally near, the even one is
taken. -/
def withDigits? (x : Binary64) (count : Nat) : Option (Nat × Int) :=
  let (num, den) := x.ratio
  let k := leadingExponent num den - (count - 1 : Nat)
  let (n, d) :=
    if 0 ≤ k then (num, den * Nat.pow 10 k.toNat) else (num * Nat.pow 10 (-k).toNat, den)
  let below := n / d
  let reads := fun c => ofDecimal? c k == some { x with negative := false }
  let isBelow := 2 * (n % d) < d ∨ (2 * (n % d) = d ∧ below % 2 = 0)
  let nearer := if isBelow then [below, below + 1] else [below + 1, below]
  (nearer.find? reads).map fun c => (c, k)

/-- The fewest digits that read back as `x`, and the power of ten behind them. Seventeen digits
always suffice. -/
def shortest (x : Binary64) : Nat × Int :=
  if x.isZero then (0, 0)
  else ((List.range 17).findSome? fun i => x.withDigits? (i + 1)).getD (0, 0)

def scientific (x : Binary64) : List Char × Int :=
  let (c, k) := x.shortest
  let digits := Nat.toDigits 10 c
  let kept := (digits.reverse.dropWhile (· == '0')).reverse
  (if kept.isEmpty then ['0'] else kept, if c = 0 then 0 else k + digits.length - 1)

def positional (digits : List Char) (exponent : Int) : List Char :=
  if exponent < 0 then
    ['0', '.'] ++ List.replicate ((-exponent).toNat - 1) '0' ++ digits
  else
    let whole := exponent.toNat + 1
    let padded := digits ++ List.replicate (whole - digits.length) '0'
    let fraction := padded.drop whole
    padded.take whole ++ '.' :: (if fraction.isEmpty then ['0'] else fraction)

def plainText (x : Binary64) : String :=
  let (digits, e) := x.scientific
  String.ofList ((if x.negative then ['-'] else []) ++ positional digits e)

end Relay.Binary64
