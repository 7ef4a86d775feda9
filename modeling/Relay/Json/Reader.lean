import Relay.Json.Lexical

/-!
Reading JSON values. Lists and objects may be nested 127 deep.
-/

namespace Relay.Json

/-! ### Lists and objects of anything

The loops take the reader of one item. They use up a character in each round, so the length of the
text is fuel enough.
-/

def readMoreItems {α : Type} (item : Reader α) : Nat → Reader (List α)
  | 0, cs => failNext .endInList cs
  | fuel + 1, cs =>
    match skipBlanks cs with
    | ']' :: rest => .ok ([], rest)
    | ',' :: rest =>
      match skipBlanks rest with
      | [] => failNext .endInValue []
      | ']' :: after => failNext .trailingComma (']' :: after)
      | next => do
        let (v, rest) ← item next
        let (vs, rest) ← readMoreItems item fuel rest
        return (v :: vs, rest)
    | [] => failNext .endInList []
    | rest => failNext .expectedListEnd rest

def readItems {α : Type} (item : Reader α) : Reader (List α) := fun cs =>
  match skipBlanks cs with
  | [] => failNext .endInList []
  | ']' :: rest => .ok ([], rest)
  | next => do
    let (v, rest) ← item next
    let (vs, rest) ← readMoreItems item (rest.length + 1) rest
    return (v :: vs, rest)

def readColon (cs : List Char) : Except Misread (List Char) :=
  match skipBlanks cs with
  | ':' :: rest => .ok rest
  | [] => failNext .endInObject []
  | rest => failNext .expectedColon rest

def readMember {α : Type} (value : Reader α) : Reader (String × α) := fun cs => do
  let (name, rest) ← readString cs
  let rest ← readColon rest
  let (v, rest) ← value rest
  return ((name, v), rest)

def readMoreMembers {α : Type} (value : Reader α) : Nat → Reader (List (String × α))
  | 0, cs => failNext .endInObject cs
  | fuel + 1, cs =>
    match skipBlanks cs with
    | '\x7d' :: rest => .ok ([], rest)
    | ',' :: rest =>
      match skipBlanks rest with
      | '"' :: after => do
        let (m, rest) ← readMember value after
        let (ms, rest) ← readMoreMembers value fuel rest
        return (m :: ms, rest)
      | '\x7d' :: after => failNext .trailingComma ('\x7d' :: after)
      | [] => failNext .endInValue []
      | next => failNext .nameNotText next
    | [] => failNext .endInObject []
    | rest => failNext .expectedObjectEnd rest

def readMembers {α : Type} (value : Reader α) : Reader (List (String × α)) := fun cs =>
  match skipBlanks cs with
  | [] => failNext .endInObject []
  | '\x7d' :: rest => .ok ([], rest)
  | '"' :: after => do
    let (m, rest) ← readMember value after
    let (ms, rest) ← readMoreMembers value (rest.length + 1) rest
    return (m :: ms, rest)
  | next => failNext .nameNotText next

/-! ### Values -/

def readScalar : Reader Json := fun cs => do
  match cs with
  | [] => failNext .endInValue []
  | 'n' :: rest => return (.null, ← readWord ['u', 'l', 'l'] rest)
  | 't' :: rest => return (.bool true, ← readWord ['r', 'u', 'e'] rest)
  | 'f' :: rest => return (.bool false, ← readWord ['a', 'l', 's', 'e'] rest)
  | '-' :: rest =>
    let (n, rest) ← readNumber true rest
    return (.number n, rest)
  | '"' :: rest =>
    let (s, rest) ← readString rest
    return (.string s, rest)
  | c :: rest =>
    if c.isDigit then
      let (n, rest) ← readNumber false (c :: rest)
      return (.number n, rest)
    else failNext .expectedValue (c :: rest)

/-- A value in which `levels` further levels may be opened. -/
def readValue : Nat → Reader Json
  | 0, cs =>
    match skipBlanks cs with
    | '[' :: rest => failNext .tooDeep ('[' :: rest)
    | '\x7b' :: rest => failNext .tooDeep ('\x7b' :: rest)
    | rest => readScalar rest
  | levels + 1, cs =>
    match skipBlanks cs with
    | '[' :: rest => do
      let (items, rest) ← readItems (readValue levels) rest
      return (.array items, rest)
    | '\x7b' :: rest => do
      let (members, rest) ← readMembers (readValue levels) rest
      return (.object (members.foldl (fun ms m => putMember m.1 m.2 ms) []), rest)
    | rest => readScalar rest

def maxDepth : Nat := 127

def readWhole {α : Type} (read : Reader α) (cs : List Char) : Except Misread α := do
  let (v, rest) ← read cs
  match skipBlanks rest with
  | [] => return v
  | rest => failNext .trailingCharacters rest

def readDocument {α : Type} (read : Reader α) (text : String) : Except Error α :=
  (readWhole read text.toList).mapError (·.place text.toList)

def parse (text : String) : Except Error Json := readDocument (readValue maxDepth) text

end Relay.Json
