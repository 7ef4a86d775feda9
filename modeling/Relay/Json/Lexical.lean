import Relay.Json.Error

/-!
The parts of JSON that hold no others: blanks, words, texts and numbers.
-/

namespace Relay.Json

def isBlankChar (c : Char) : Bool := c == ' ' || c == '\n' || c == '\t' || c == '\r'

def skipBlanks (cs : List Char) : List Char := cs.dropWhile isBlankChar

def readWord : List Char → List Char → Except Misread (List Char)
  | [], cs => .ok cs
  | _ :: _, [] => failAt .endInValue []
  | w :: ws, c :: cs => if c = w then readWord ws cs else failNext .expectedWord (c :: cs)

/-! ### Texts -/

/-- Four hexadecimal digits. What stands there instead counts as read, four bytes of it. -/
def readHex4 : Reader Nat
  | a :: b :: c :: d :: rest =>
    match Ascii.hexValue? a, Ascii.hexValue? b, Ascii.hexValue? c, Ascii.hexValue? d with
    | some x, some y, some z, some w => .ok (4096 * x + 256 * y + 16 * z + w, rest)
    | _, _, _, _ => .error ⟨.invalidEscape, a :: b :: c :: d :: rest, 4⟩
  | cs =>
    if (cs.flatMap String.utf8EncodeChar).length < 4 then failAt .endInString []
    else .error ⟨.invalidEscape, cs, 4⟩

/-- The character of an escape `\u`, behind the `u`. A character beyond sixteen bits takes two
escapes, and no half of such a pair stands alone. -/
def readUnicode (cs : List Char) : Except Misread (Char × List Char) := do
  let (n, rest) ← readHex4 cs
  if 0xDC00 ≤ n ∧ n ≤ 0xDFFF then failAt .loneSurrogate rest
  else if n < 0xD800 ∨ 0xDBFF < n then return (Char.ofNat n, rest)
  else
    match rest with
    | [] => failAt .endInString []
    | ['\\'] => failAt .endInString []
    | '\\' :: 'u' :: more =>
      let (m, rest) ← readHex4 more
      if m < 0xDC00 ∨ 0xDFFF < m then failAt .loneSurrogate rest
      else return (Char.ofNat (0x10000 + (n - 0xD800) * 1024 + (m - 0xDC00)), rest)
    | '\\' :: more => failNext .endInEscape more
    | rest => failNext .endInEscape rest

theorem readHex4_length {cs rest : List Char} {n : Nat} (h : readHex4 cs = .ok (n, rest)) :
    rest.length < cs.length := by
  unfold readHex4 at h
  split at h
  · split at h
    · simp only [Except.ok.injEq, Prod.mk.injEq] at h
      simp only [← h.2, List.length_cons]
      omega
    · cases h
  · split at h <;> cases h

theorem readUnicode_length {cs rest : List Char} {c : Char} (h : readUnicode cs = .ok (c, rest)) :
    rest.length < cs.length := by
  unfold readUnicode at h
  cases h₁ : readHex4 cs with
  | error e => simp [h₁, bind, Except.bind] at h
  | ok p =>
    obtain ⟨n, r⟩ := p
    have hr := readHex4_length h₁
    simp only [h₁, bind, Except.bind] at h
    split at h
    · cases h
    · split at h
      · simp only [pure, Except.pure, Except.ok.injEq, Prod.mk.injEq] at h
        exact h.2 ▸ hr
      · split at h
        · cases h
        · cases h
        · rename_i more
          cases h₂ : readHex4 more with
          | error e => simp [h₂] at h
          | ok q =>
            obtain ⟨m, r₂⟩ := q
            have hr₂ := readHex4_length h₂
            simp only [h₂] at h
            split at h
            · cases h
            · simp only [pure, Except.pure, Except.ok.injEq, Prod.mk.injEq] at h
              simp only [List.length_cons] at hr
              rw [← h.2]
              omega
        · cases h
        · cases h

def shortEscape? (c : Char) : Option Char :=
  if c == '"' || c == '\\' || c == '/' then some c
  else if c == 'b' then some (Char.ofNat 8)
  else if c == 'f' then some (Char.ofNat 12)
  else if c == 'n' then some '\n'
  else if c == 'r' then some '\r'
  else if c == 't' then some '\t'
  else none

def readText (cs : List Char) : Except Misread (List Char × List Char) :=
  match cs with
  | [] => failAt .endInString []
  | '"' :: rest => .ok ([], rest)
  | ['\\'] => failAt .endInString []
  | '\\' :: 'u' :: rest =>
    match _h : readUnicode rest with
    | .error e => .error e
    | .ok (c, tail) => (readText tail).map fun p => (c :: p.1, p.2)
  | '\\' :: e :: rest =>
    match shortEscape? e with
    | some c => (readText rest).map fun p => (c :: p.1, p.2)
    | none => failNext .invalidEscape (e :: rest)
  | c :: rest =>
    if c.toNat < 32 then failAt .controlCharacter rest
    else (readText rest).map fun p => (c :: p.1, p.2)
termination_by cs.length
decreasing_by
  · have := readUnicode_length _h
    simp only [List.length_cons]
    omega
  · simp only [List.length_cons]
    omega
  · simp only [List.length_cons]
    omega

def readString : Reader String := fun cs => do
  let (s, rest) ← readText cs
  return (String.ofList s, rest)

/-! ### Numbers -/

/-- Takes digits into a number as long as it stays below `2 ^ 64`: the number, how many digits it
took, and what remains. -/
def takeDigits (n : Nat) : List Char → Nat × Nat × List Char
  | [] => (n, 0, [])
  | c :: cs =>
    let next := 10 * n + (c.toNat - 48)
    if c.isDigit ∧ next < 0x10000000000000000 then
      let (m, count, rest) := takeDigits next cs
      (m, count + 1, rest)
    else (n, 0, c :: cs)

/-- Multiplies by a power of ten, with one rounding for powers up to `10 ^ 308` and one more for
each further `10 ^ 308` that divides. `none` is beyond every number. -/
def scale : Nat → Binary64 → Int → Option Binary64
  | 0, _, _ => some .zero
  | fuel + 1, f, e =>
    if e.natAbs ≤ 308 then
      (Binary64.pow10? e.natAbs).bind fun p => if 0 ≤ e then f.mul? p else f.div? p
    else if f.isZero then some f
    else if 0 ≤ e then none
    else ((Binary64.pow10? 308).bind f.div?).bind fun g => scale fuel g (e + 308)

/-- The number `± n · 10 ^ e`. A number below `2 ^ 64` vanishes after two divisions, so four
rounds are enough. -/
def floatOf (negative : Bool) (n : Nat) (e : Int) (rest : List Char) :
    Except Misread (Number × List Char) :=
  match (Binary64.ofRatio? n 1).bind fun f => scale 4 f e with
  | some f => .ok (.float { f with negative }, rest)
  | none => failAt .numberOutOfRange rest

/-- The digits of an exponent up to `2 ^ 31`: its value and what remains, or what remains behind
the digit that exceeds the bound. -/
def takeExponent (n : Nat) : List Char → (Nat × List Char) ⊕ List Char
  | [] => .inl (n, [])
  | c :: cs =>
    if c.isDigit then
      let next := 10 * n + (c.toNat - 48)
      if next < 0x80000000 then takeExponent next cs else .inr cs
    else .inl (n, c :: cs)

def readExponent (negative : Bool) (n : Nat) (start : Int) (cs : List Char) :
    Except Misread (Number × List Char) :=
  let (down, cs) := match cs with
    | '+' :: rest => (false, rest)
    | '-' :: rest => (true, rest)
    | rest => (false, rest)
  match cs with
  | [] => failAt .endInValue []
  | c :: rest =>
    if !c.isDigit then failNext .invalidNumber (c :: rest)
    else
      match takeExponent 0 (c :: rest) with
      | .inl (e, rest) => floatOf negative n (if down then start - e else start + e) rest
      | .inr rest =>
        if n ≠ 0 ∧ !down then failAt .numberOutOfRange rest
        else .ok (.float { Binary64.zero with negative }, rest.dropWhile Char.isDigit)

def readOptionalExponent (negative : Bool) (n : Nat) (e : Int) (cs : List Char) :
    Except Misread (Number × List Char) :=
  match cs with
  | 'e' :: rest => readExponent negative n e rest
  | 'E' :: rest => readExponent negative n e rest
  | rest => floatOf negative n e rest

/-- The digits behind the point. Digits that would exceed 64 bits are read and dropped. -/
def readFraction (negative : Bool) (n : Nat) (e : Int) (cs : List Char) :
    Except Misread (Number × List Char) :=
  let (m, count, rest) := takeDigits n cs
  if rest.head?.any Char.isDigit then
    readOptionalExponent negative m (e - count) (rest.dropWhile Char.isDigit)
  else if count = 0 then
    failNext (if rest.isEmpty then .endInValue else .invalidNumber) rest
  else readOptionalExponent negative m (e - count) rest

/-- An integer that needs no fraction. Minus zero, and what 64 bits do not hold, are floats. -/
def wholeNumber (negative : Bool) (n : Nat) : Number :=
  if !negative then .integer n
  else if n = 0 ∨ 0x8000000000000000 < n then
    .float { (Binary64.ofRatio? n 1).getD .zero with negative := true }
  else .integer (-n)

def readNumberTail (negative : Bool) (n : Nat) (e : Nat) (long : Bool) (cs : List Char) :
    Except Misread (Number × List Char) :=
  match cs with
  | '.' :: rest => readFraction negative n e rest
  | 'e' :: rest => readExponent negative n e rest
  | 'E' :: rest => readExponent negative n e rest
  | rest => if long then floatOf negative n e rest else .ok (wholeNumber negative n, rest)

/-- A number behind its sign. Digits beyond 64 bits only raise the exponent. -/
def readNumber (negative : Bool) : Reader Number
  | [] => failAt .endInValue []
  | '0' :: rest =>
    if rest.head?.any Char.isDigit then failNext .invalidNumber rest
    else readNumberTail negative 0 0 false rest
  | c :: cs =>
    if c.isDigit then
      let (n, _, rest) := takeDigits 0 (c :: cs)
      let further := (rest.takeWhile Char.isDigit).length
      readNumberTail negative n further (further != 0) (rest.drop further)
    else failNext .invalidNumber (c :: cs)

end Relay.Json
