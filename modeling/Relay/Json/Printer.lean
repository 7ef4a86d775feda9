import Relay.Json.Basic
import Relay.Text.Ascii

/-!
Writing JSON: compact, with nothing between the parts, or indented by two blanks a level.
-/

namespace Relay.Json

def escapeChar (c : Char) : List Char :=
  if c == '"' then ['\\', '"']
  else if c == '\\' then ['\\', '\\']
  else if c.toNat == 8 then ['\\', 'b']
  else if c == '\t' then ['\\', 't']
  else if c == '\n' then ['\\', 'n']
  else if c.toNat == 12 then ['\\', 'f']
  else if c == '\r' then ['\\', 'r']
  else if c.toNat < 32 then
    ['\\', 'u', '0', '0', Ascii.hexDigitLower (c.toNat / 16), Ascii.hexDigitLower (c.toNat % 16)]
  else [c]

def quoteChars (s : String) : List Char :=
  '"' :: s.toList.flatMap escapeChar ++ ['"']

/-- Numbers from `10 ^ -5` up to below `10 ^ 16`, and zero, are written out with at least one digit
behind the point; all others have one digit before it and a signed exponent. -/
def floatText (x : Binary64) : String :=
  let (digits, e) := x.scientific
  if -5 ≤ e ∧ e < 16 then x.plainText
  else
    let mantissa := match digits with
      | [d] => [d]
      | d :: ds => d :: '.' :: ds
      | [] => ['0']
    let sign := if e < 0 then '-' else '+'
    String.ofList
      ((if x.negative then ['-'] else []) ++ mantissa ++ 'e' :: sign :: Nat.toDigits 10 e.natAbs)

def integerChars (n : Int) : List Char :=
  if n < 0 then '-' :: Nat.toDigits 10 n.natAbs else Nat.toDigits 10 n.natAbs

def Number.chars : Number → List Char
  | .integer n => integerChars n
  | .float x => (floatText x).toList

mutual

def compactChars : Json → List Char
  | .null => "null".toList
  | .bool b => (if b then "true" else "false").toList
  | .number n => n.chars
  | .string s => quoteChars s
  | .array items => '[' :: itemChars items
  | .object members => '\x7b' :: memberChars members

def itemChars : List Json → List Char
  | [] => [']']
  | [v] => compactChars v ++ [']']
  | v :: rest => compactChars v ++ ',' :: itemChars rest

def memberChars : List (String × Json) → List Char
  | [] => ['\x7d']
  | [(n, v)] => quoteChars n ++ ':' :: compactChars v ++ ['\x7d']
  | (n, v) :: rest => quoteChars n ++ ':' :: compactChars v ++ ',' :: memberChars rest

end

def compact (v : Json) : String := String.ofList (compactChars v)

def newLine (level : Nat) : List Char := '\n' :: List.replicate (2 * level) ' '

mutual

def indentedChars (level : Nat) : Json → List Char
  | .null => "null".toList
  | .bool b => (if b then "true" else "false").toList
  | .number n => n.chars
  | .string s => quoteChars s
  | .array items =>
    '[' :: (if items.isEmpty then [] else newLine (level + 1)) ++ indentedItems level items
  | .object members =>
    '\x7b' :: (if members.isEmpty then [] else newLine (level + 1)) ++ indentedMembers level members

def indentedItems (level : Nat) : List Json → List Char
  | [] => [']']
  | [v] => indentedChars (level + 1) v ++ newLine level ++ [']']
  | v :: rest => indentedChars (level + 1) v ++ ',' :: newLine (level + 1) ++ indentedItems level rest

def indentedMembers (level : Nat) : List (String × Json) → List Char
  | [] => ['\x7d']
  | [(n, v)] => quoteChars n ++ ':' :: ' ' :: indentedChars (level + 1) v ++ newLine level ++ ['\x7d']
  | (n, v) :: rest =>
    quoteChars n ++ ':' :: ' ' :: indentedChars (level + 1) v ++ ',' :: newLine (level + 1) ++
      indentedMembers level rest

end

def indented (v : Json) : String := String.ofList (indentedChars 0 v)

end Relay.Json
