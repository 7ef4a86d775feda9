import Relay.Text.Ascii
import Relay.Toml.Basic

/-!
The parts of TOML that hold no others: blanks and comments, keys, texts, numbers and dates. Each
reader gives back the value at the head of the text and what follows it.
-/

namespace Relay.Toml

abbrev Reader (α : Type) := List Char → Option (α × List Char)

/-! ### Blanks and comments -/

def isBlankChar (c : Char) : Bool := c == ' ' || c == '\t'

def skipBlanks (cs : List Char) : List Char := cs.dropWhile isBlankChar

def isPlainChar (c : Char) : Bool := c.toNat == 9 || (32 ≤ c.toNat && c.toNat != 127)

def newline? : List Char → Option (List Char)
  | '\n' :: rest => some rest
  | '\r' :: '\n' :: rest => some rest
  | _ => none

def skipComment : List Char → List Char
  | '#' :: rest => rest.dropWhile isPlainChar
  | cs => cs

def lineEnd? (cs : List Char) : Option (List Char) :=
  match skipComment (skipBlanks cs) with
  | [] => some []
  | rest => newline? rest

/-- Skips blanks, line breaks and comments; a comment has to end in a line break. -/
def skipLines : Nat → List Char → Option (List Char)
  | 0, cs => some cs
  | fuel + 1, cs =>
    match skipBlanks cs with
    | '#' :: rest => do skipLines fuel (← newline? (rest.dropWhile isPlainChar))
    | rest =>
      match newline? rest with
      | some after => skipLines fuel after
      | none => some rest

/-! ### Texts -/

def codePoint? (digits : List Char) : Option Char := do
  let values ← digits.mapM Ascii.hexValue?
  let n := values.foldl (fun n d => 16 * n + d) 0
  if n.isValidChar then some (Char.ofNat n) else none

def shortEscape? (c : Char) : Option Char :=
  if c == 'b' then some (Char.ofNat 8)
  else if c == 't' then some '\t'
  else if c == 'n' then some '\n'
  else if c == 'f' then some (Char.ofNat 12)
  else if c == 'r' then some '\r'
  else if c == '"' || c == '\\' then some c
  else none

def prepend (front : List Char) (tail : Option (List Char × List Char)) :
    Option (List Char × List Char) :=
  tail.map fun p => (front ++ p.1, p.2)

def readBasic : List Char → Option (List Char × List Char)
  | [] => none
  | '"' :: rest => some ([], rest)
  | '\\' :: 'u' :: a :: b :: c :: d :: rest => do
    prepend [← codePoint? [a, b, c, d]] (readBasic rest)
  | '\\' :: 'U' :: a :: b :: c :: d :: e :: f :: g :: h :: rest => do
    prepend [← codePoint? [a, b, c, d, e, f, g, h]] (readBasic rest)
  | '\\' :: c :: rest => do prepend [← shortEscape? c] (readBasic rest)
  | c :: rest => if isPlainChar c && c != '\\' then prepend [c] (readBasic rest) else none

def readLiteral : List Char → Option (List Char × List Char)
  | [] => none
  | c :: rest =>
    if c.toNat == 39 then some ([], rest)
    else if isPlainChar c then prepend [c] (readLiteral rest)
    else none

/-- The quotes that close a text of several lines, and up to two more before them that belong to
it. -/
def closing? (quote : Char) (cs : List Char) : Option (List Char × List Char) :=
  let run := (cs.takeWhile (· == quote)).length
  if 3 ≤ run ∧ run ≤ 5 then some (List.replicate (run - 3) quote, cs.drop run) else none

def skipGap : List Char → List Char
  | [] => []
  | '\r' :: '\n' :: rest => skipGap rest
  | c :: rest => if isBlankChar c || c == '\n' then skipGap rest else c :: rest

def lineContinuation? (cs : List Char) : Option (List Char) :=
  (newline? (skipBlanks cs)).map skipGap

/-- A text of several lines, behind its quotes. Line breaks count as line feeds. -/
def readLines (quote : Char) (escapes : Bool) : Nat → List Char → Option (List Char × List Char)
  | 0, _ => none
  | fuel + 1, cs =>
    match cs with
    | [] => none
    | c :: rest =>
      if c == quote then
        match closing? quote cs with
        | some closed => some closed
        | none =>
          if (cs.takeWhile (· == quote)).length ≤ 2 then
            prepend [c] (readLines quote escapes fuel rest)
          else none
      else if escapes && c == '\\' then
        match lineContinuation? rest with
        | some after => readLines quote escapes fuel after
        | none =>
          match rest with
          | 'u' :: a :: b :: d :: e :: after => do
            prepend [← codePoint? [a, b, d, e]] (readLines quote escapes fuel after)
          | 'U' :: a :: b :: d :: e :: f :: g :: h :: i :: after => do
            prepend [← codePoint? [a, b, d, e, f, g, h, i]] (readLines quote escapes fuel after)
          | e :: after => do prepend [← shortEscape? e] (readLines quote escapes fuel after)
          | [] => none
      else
        match newline? cs with
        | some after => prepend ['\n'] (readLines quote escapes fuel after)
        | none => if isPlainChar c then prepend [c] (readLines quote escapes fuel rest) else none

/-- The line break right behind the opening quotes does not count. -/
def afterOpening (cs : List Char) : List Char := (newline? cs).getD cs

def readText (cs : List Char) : Option (String × List Char) := do
  let (s, rest) ← match cs with
    | '"' :: '"' :: '"' :: rest => readLines '"' true (rest.length + 1) (afterOpening rest)
    | '\x27' :: '\x27' :: '\x27' :: rest =>
      readLines '\x27' false (rest.length + 1) (afterOpening rest)
    | '"' :: rest => readBasic rest
    | '\x27' :: rest => readLiteral rest
    | _ => none
  return (String.ofList s, rest)

/-! ### Keys -/

def isBareKeyChar (c : Char) : Bool := c.isAlphanum || c == '-' || c == '_'

def readSimpleKey (cs : List Char) : Option (String × List Char) :=
  match cs with
  | '"' :: rest => (readBasic rest).map fun p => (String.ofList p.1, p.2)
  | '\x27' :: rest => (readLiteral rest).map fun p => (String.ofList p.1, p.2)
  | cs =>
    let name := cs.takeWhile isBareKeyChar
    if name.isEmpty then none else some (String.ofList name, cs.drop name.length)

def readKey : Nat → List Char → Option (List String × List Char)
  | 0, _ => none
  | fuel + 1, cs => do
    let (name, rest) ← readSimpleKey (skipBlanks cs)
    match skipBlanks rest with
    | '.' :: more =>
      let (names, rest) ← readKey fuel more
      return (name :: names, rest)
    | rest => return ([name], rest)

/-! ### Numbers -/

/-- The digits of a number; an underscore has a digit on both sides. -/
def digits? (isDigit : Char → Bool) (cs : List Char) : Option (List Char) :=
  let parts := cs.splitOn '_'
  if parts.all fun p => !p.isEmpty && p.all isDigit then some parts.flatten else none

def valueOf (radix : Nat) (digits : List Char) : Nat :=
  digits.foldl (fun n c => radix * n + (Ascii.hexValue? c).getD 0) 0

def sign (cs : List Char) : Bool × List Char :=
  match cs with
  | '-' :: rest => (true, rest)
  | '+' :: rest => (false, rest)
  | rest => (false, rest)

def decimalDigits? (cs : List Char) : Option (List Char) := do
  let ds ← digits? Char.isDigit cs
  if ds.head? = some '0' ∧ cs.length > 1 then none else some ds

def fits64 (n : Int) : Option Toml :=
  if -0x8000000000000000 ≤ n ∧ n < 0x8000000000000000 then some (.integer n) else none

def integer? (cs : List Char) : Option Toml :=
  match cs with
  | '0' :: 'x' :: rest => do fits64 (valueOf 16 (← digits? Ascii.isHexDigit rest))
  | '0' :: 'o' :: rest => do fits64 (valueOf 8 (← digits? (fun c => '0' ≤ c && c ≤ '7') rest))
  | '0' :: 'b' :: rest => do fits64 (valueOf 2 (← digits? (fun c => c == '0' || c == '1') rest))
  | cs => do
    let (negative, rest) := sign cs
    let n := valueOf 10 (← decimalDigits? rest)
    fits64 (if negative then -n else n)

/-- The number nearest to `c · 10 ^ e`. Powers far beyond every number are not computed. -/
def nearest (negative : Bool) (c : Nat) (e : Int) : Option Toml :=
  let digits : Int := (Nat.toDigits 10 c).length
  let zero := Real.finite { Binary64.zero with negative }
  if c = 0 ∨ e + digits < -400 then some (.real zero)
  else
    match if e + digits > 400 then none else Binary64.ofDecimal? c e with
    | some x => some (.real (.finite { x with negative }))
    | none => if negative then some (.real (.infinite true)) else none

def exponent? (cs : List Char) : Option Int := do
  let (negative, rest) := sign cs
  let n : Nat := valueOf 10 (← digits? Char.isDigit rest)
  return if negative then -n else n

def float? (cs : List Char) : Option Toml := do
  let (negative, body) := sign cs
  if body = "inf".toList then some (.real (.infinite negative))
  else if body = "nan".toList then some (.real .nan)
  else
    let isMark := fun c => c == 'e' || c == 'E'
    let front := body.takeWhile (!isMark ·)
    let exponent ← match body.drop front.length with
      | _ :: e => exponent? e
      | [] => some 0
    match front.span (· ≠ '.') with
    | (whole, _ :: fraction) =>
      let ds ← decimalDigits? whole
      let fs ← digits? Char.isDigit fraction
      nearest negative (valueOf 10 (ds ++ fs)) (exponent - fs.length)
    | (whole, []) =>
      if front.length = body.length then none
      else nearest negative (valueOf 10 (← decimalDigits? whole)) exponent

/-! ### Dates and times -/

def fixed? (count : Nat) (cs : List Char) : Option (Nat × List Char) := do
  let ds := cs.take count
  if ds.length = count ∧ ds.all Char.isDigit then some (valueOf 10 ds, cs.drop count) else none

def expect? (c : Char) (cs : List Char) : Option (List Char) :=
  if cs.head? = some c then some cs.tail else none

def daysIn (year month : Nat) : Nat :=
  if month = 2 then
    if year % 4 = 0 ∧ (year % 100 ≠ 0 ∨ year % 400 = 0) then 29 else 28
  else if [4, 6, 9, 11].contains month then 30
  else 31

def date? (cs : List Char) : Option (List Char) := do
  let (year, rest) ← fixed? 4 cs
  let (month, rest) ← fixed? 2 (← expect? '-' rest)
  let (day, rest) ← fixed? 2 (← expect? '-' rest)
  if 1 ≤ month ∧ month ≤ 12 ∧ 1 ≤ day ∧ day ≤ daysIn year month then some rest else none

def time? (cs : List Char) : Option (List Char) := do
  let (hour, rest) ← fixed? 2 cs
  let (minute, rest) ← fixed? 2 (← expect? ':' rest)
  let (second, rest) ← fixed? 2 (← expect? ':' rest)
  if hour > 23 ∨ minute > 59 ∨ second > 60 then none
  match rest with
  | '.' :: fraction =>
    let ds := fraction.takeWhile Char.isDigit
    if ds.isEmpty then none else some (fraction.drop ds.length)
  | rest => some rest

def offset? (cs : List Char) : Option (List Char) :=
  match cs with
  | [] => some []
  | c :: rest =>
    if c == 'Z' || c == 'z' then some rest
    else if c == '+' || c == '-' then do
      let (hour, rest) ← fixed? 2 rest
      let (minute, rest) ← fixed? 2 (← expect? ':' rest)
      if hour > 23 ∨ minute > 59 then none else some rest
    else some (c :: rest)

def isMoment (cs : List Char) : Bool :=
  match date? cs with
  | some [] => true
  | some (c :: rest) =>
    (c == 'T' || c == 't' || c == ' ') && ((time? rest).bind offset?) == some []
  | none => time? cs == some []

/-! ### Unquoted values -/

def isBareValueChar (c : Char) : Bool :=
  c.isAlphanum || c == '+' || c == '-' || c == '_' || c == '.' || c == ':'

/-- The characters of an unquoted value. A blank belongs to it between a date and a time. -/
def bareValue (cs : List Char) : List Char × List Char :=
  let (front, rest) := cs.span isBareValueChar
  match rest with
  | ' ' :: a :: b :: ':' :: more =>
    if date? front = some [] ∧ a.isDigit ∧ b.isDigit then
      let (time, rest) := more.span isBareValueChar
      (front ++ ' ' :: a :: b :: ':' :: time, rest)
    else (front, rest)
  | rest => (front, rest)

def readBare (cs : List Char) : Option (Toml × List Char) := do
  let (word, rest) := bareValue cs
  let value ←
    if word = "true".toList then some (.flag true)
    else if word = "false".toList then some (.flag false)
    else if isMoment word then some .moment
    else (integer? word).orElse fun _ => float? word
  return (value, rest)

end Relay.Toml
