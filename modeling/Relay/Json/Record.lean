import Relay.Json.Skip
import Relay.TextMap

/-!
Reading records: objects with known fields, in any order, or lists of their values in the fields'
own order. Fields nobody knows are passed over.
-/

namespace Relay.Json

/-- What stands at the head of a text where something else was expected. A scalar is read first, a
list or an object is not. -/
def mismatch {α : Type} (expected : String) (cs : List Char) : Except Misread α := do
  match cs with
  | '[' :: rest => failAt (.wrongType .sequence expected) ('[' :: rest)
  | '\x7b' :: rest => failAt (.wrongType .map expected) ('\x7b' :: rest)
  | cs =>
    let (v, rest) ← readScalar cs
    let shape : Shape := match v with
      | .bool b => .flag b
      | .number (.integer n) => .integer n
      | .number (.float x) => .float (floatText x)
      | .string s => .text s
      | _ => .null
    failAt (.wrongType shape expected) rest

def valueStart (cs : List Char) : Except Misread (List Char) :=
  match skipBlanks cs with
  | [] => failNext .endInValue []
  | rest => .ok rest

def textField : Reader String := fun cs => do
  match ← valueStart cs with
  | '"' :: rest => readString rest
  | rest => mismatch "a string" rest

def flagField : Reader Bool := fun cs => do
  match ← valueStart cs with
  | 't' :: rest => return (true, ← readWord ['r', 'u', 'e'] rest)
  | 'f' :: rest => return (false, ← readWord ['a', 'l', 's', 'e'] rest)
  | rest => mismatch "a boolean" rest

def word16Field : Reader UInt16 := fun cs => do
  let start ← valueStart cs
  let accept : Number × List Char → Except Misread (UInt16 × List Char) := fun (n, rest) =>
    match n with
    | .integer i =>
      if 0 ≤ i ∧ i < 65536 then .ok (UInt16.ofNat i.toNat, rest)
      else failAt (.wrongValue (.integer i) "u16") rest
    | .float x => failAt (.wrongType (.float (floatText x)) "u16") rest
  match start with
  | '-' :: rest => readNumber true rest >>= accept
  | c :: rest => if c.isDigit then readNumber false (c :: rest) >>= accept else mismatch "u16" start
  | [] => mismatch "u16" start

def mapField : Reader TextMap := fun cs => do
  match ← valueStart cs with
  | '\x7b' :: rest =>
    let (members, rest) ← readMembers textField rest
    return (TextMap.ofList members, rest)
  | rest => mismatch "a map" rest

def optional {α : Type} (field : Reader α) : Reader (Option α) := fun cs => do
  match skipBlanks cs with
  | 'n' :: rest => return (none, ← readWord ['u', 'l', 'l'] rest)
  | rest =>
    let (v, rest) ← field rest
    return (some v, rest)

structure Field (δ : Type) where
  name : String
  required : Bool
  isSet : δ → Bool
  read : δ → Reader δ

structure Schema (δ : Type) where
  title : String
  fields : List (Field δ)

namespace Schema

variable {δ : Type}

def passBrace (cs : List Char) : List Char :=
  match skipBlanks cs with
  | '\x7d' :: rest => rest
  | rest => rest

def finish (s : Schema δ) (draft : δ) (rest : List Char) : Except Misread (δ × List Char) :=
  match s.fields.find? fun f => f.required && !f.isSet draft with
  | some f => failAt (.missingField f.name) rest
  | none => .ok (draft, rest)

def readField (s : Schema δ) (draft : δ) (cs : List Char) : Except Misread (δ × List Char) := do
  let (name, rest) ← readString cs
  match s.fields.find? (·.name == name) with
  | none =>
    let (_, rest) ← skipValue (← readColon rest)
    return (draft, rest)
  | some f =>
    if f.isSet draft then failAt (.duplicateField f.name) (passBrace rest)
    else f.read draft (← readColon rest)

def readMoreFields (s : Schema δ) : Nat → δ → List Char → Except Misread (δ × List Char)
  | 0, _, cs => failNext .endInObject cs
  | fuel + 1, draft, cs =>
    match skipBlanks cs with
    | '\x7d' :: rest => s.finish draft rest
    | ',' :: rest =>
      match skipBlanks rest with
      | '"' :: after => do
        let (draft, rest) ← s.readField draft after
        s.readMoreFields fuel draft rest
      | '\x7d' :: after => failNext .trailingComma ('\x7d' :: after)
      | [] => failNext .endInValue []
      | next => failNext .nameNotText next
    | [] => failNext .endInObject []
    | rest => failNext .expectedObjectEnd rest

def readObject (s : Schema δ) (draft : δ) (cs : List Char) : Except Misread (δ × List Char) :=
  match skipBlanks cs with
  | [] => failNext .endInObject []
  | '\x7d' :: rest => s.finish draft rest
  | '"' :: after => do
    let (draft, rest) ← s.readField draft after
    s.readMoreFields (rest.length + 1) draft rest
  | next => failNext .nameNotText next

def readListEnd (cs : List Char) : Except Misread (List Char) :=
  match skipBlanks cs with
  | ']' :: rest => .ok rest
  | ',' :: rest =>
    match skipBlanks rest with
    | ']' :: after => failNext .trailingComma (']' :: after)
    | after => failNext .trailingCharacters after
  | [] => failNext .endInList []
  | rest => failNext .trailingCharacters rest

/-- The fields of a record written as a list; `index` counts those already read. At the closing
bracket the remaining fields keep their defaults, unless one is required. -/
def readList (s : Schema δ) : Nat → List (Field δ) → δ → List Char → Except Misread (δ × List Char)
  | _, [], draft, cs => do return (draft, ← readListEnd cs)
  | index, f :: fields, draft, cs =>
    match skipBlanks cs with
    | [] => failNext .endInList []
    | ']' :: rest =>
      match (f :: fields).findIdx? (·.required) with
      | some i => failAt (.wrongLength (index + i) s!"{s.title} with {s.fields.length} elements") rest
      | none => .ok (draft, rest)
    | c :: rest => do
      let next ←
        if index = 0 then pure (c :: rest)
        else if c = ',' then
          match skipBlanks rest with
          | ']' :: after => failNext .trailingComma (']' :: after)
          | [] => failNext .endInValue []
          | after => pure after
        else failNext .expectedListEnd (c :: rest)
      let (draft, rest) ← f.read draft next
      s.readList (index + 1) fields draft rest

def read (s : Schema δ) (draft : δ) : Reader δ := fun cs => do
  match ← valueStart cs with
  | '\x7b' :: rest => s.readObject draft rest
  | '[' :: rest => s.readList 0 s.fields draft rest
  | rest => mismatch s.title rest

end Schema

end Relay.Json
