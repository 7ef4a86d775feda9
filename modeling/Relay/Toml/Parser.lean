import Relay.Toml.Lexical

/-!
Reading TOML documents: values, and the lines that put them into tables. A table is written once:
under one header, by dotted keys in one place, or between braces.
-/

namespace Relay.Toml

/-! ### Values -/

def readItems (value : Reader Toml) : Nat → Reader (List Toml)
  | 0, _ => none
  | fuel + 1, cs => do
    let cs ← skipLines cs.length cs
    match cs with
    | ']' :: rest => return ([], rest)
    | cs =>
      let (v, rest) ← value cs
      match ← skipLines rest.length rest with
      | ',' :: rest =>
        let (vs, rest) ← readItems value fuel rest
        return (v :: vs, rest)
      | ']' :: rest => return ([v], rest)
      | _ => none

def readPair (value : Reader Toml) : Reader (List String × Toml) := fun cs => do
  let (path, rest) ← readKey (cs.length + 1) cs
  match skipBlanks rest with
  | '=' :: rest =>
    let (v, rest) ← value (skipBlanks rest)
    return ((path, v), rest)
  | _ => none

def readPairs (value : Reader Toml) : Nat → Reader (List (List String × Toml))
  | 0, _ => none
  | fuel + 1, cs => do
    let (pair, rest) ← readPair value cs
    match skipBlanks rest with
    | ',' :: rest =>
      let (pairs, rest) ← readPairs value fuel rest
      return (pair :: pairs, rest)
    | '\x7d' :: rest => return ([pair], rest)
    | _ => none

def addPair (fresh kind : TableKind) (entries : Entries) (pair : List String × Toml) :
    Option Entries := do
  let key ← pair.1.getLast?
  let path := pair.1.dropLast
  updateAt fresh (·.isOpen) (addEntry (!path.isEmpty) key pair.2) path kind entries

def inlineTable? (pairs : List (List String × Toml)) : Option Toml := do
  let entries ← pairs.foldlM (addPair .inlineDotted .inline) []
  return .table .inline entries

/-- A value in which `levels` further levels may be opened. -/
def readValue : Nat → Reader Toml
  | 0, cs =>
    match cs with
    | '"' :: _ | '\x27' :: _ => (readText cs).map fun p => (.text p.1, p.2)
    | cs => readBare cs
  | levels + 1, cs =>
    match cs with
    | '"' :: _ | '\x27' :: _ => (readText cs).map fun p => (.text p.1, p.2)
    | '[' :: rest => (readItems (readValue levels) (rest.length + 1) rest).map fun p => (.list p.1, p.2)
    | '\x7b' :: rest =>
      match skipBlanks rest with
      | '\x7d' :: rest => some (.table .inline [], rest)
      | rest => do
        let (pairs, rest) ← readPairs (readValue levels) (rest.length + 1) rest
        return (← inlineTable? pairs, rest)
    | cs => readBare cs

def maxDepth : Nat := 79

/-! ### Documents -/

/-- A document being read: what is complete, and the table that lines are added to. -/
structure Draft where
  root : Entries := []
  path : List String := []
  isItem : Bool := false
  current : Entries := []

def Draft.close (d : Draft) : Option Entries :=
  match d.path.getLast? with
  | none => some d.current
  | some key =>
    let place := fun (_ : TableKind) (entries : Entries) =>
      if d.isItem then
        match entries.lookup key with
        | none => some (entries ++ [(key, .tables [d.current])])
        | some (.tables items) => some (putEntry key (.tables (items ++ [d.current])) entries)
        | some _ => none
      else
        match entries.lookup key with
        | none => some (entries ++ [(key, .table .headed d.current)])
        | some _ => none
    updateAt .implied (fun k => k ≠ .inline ∧ k ≠ .inlineDotted) place d.path.dropLast .headed d.root

/-- What a header takes out of its parent: the entries of a table that was only implied. -/
def takeImplied (key : String) (entries : Entries) : Option Entries :=
  match entries.lookup key with
  | none => some []
  | some (.table .implied inner) => some inner
  | some _ => none

def entriesAt? : List String → Entries → Option Entries
  | [], entries => some entries
  | key :: path, entries =>
    match entries.lookup key with
    | none => some []
    | some (.table kind inner) =>
      if kind = .inline ∨ kind = .inlineDotted then none else entriesAt? path inner
    | some (.tables items) => items.getLast?.bind (entriesAt? path)
    | some _ => none

def Draft.openTable (d : Draft) (path : List String) : Option Draft := do
  let root ← d.close
  let key ← path.getLast?
  let inner ← takeImplied key (← entriesAt? path.dropLast root)
  -- what an implied table held goes on in the one that is opened
  let drop := fun (_ : TableKind) (entries : Entries) => some (entries.filter (·.1 ≠ key))
  let root ← updateAt .implied (fun _ => true) drop path.dropLast .headed root
  return { root, path, current := inner }

def Draft.openItem (d : Draft) (path : List String) : Option Draft := do
  let root ← d.close
  let key ← path.getLast?
  match (← entriesAt? path.dropLast root).lookup key with
  | none | some (.tables _) => return { root, path, isItem := true }
  | some _ => none

def readLine (d : Draft) (cs : List Char) : Option (Draft × List Char) :=
  match cs with
  | '[' :: '[' :: rest => do
    let (path, rest) ← readKey (rest.length + 1) rest
    match rest with
    | ']' :: ']' :: rest => return (← d.openItem path, ← lineEnd? rest)
    | _ => none
  | '[' :: rest => do
    let (path, rest) ← readKey (rest.length + 1) rest
    match rest with
    | ']' :: rest => return (← d.openTable path, ← lineEnd? rest)
    | _ => none
  | cs => do
    let (pair, rest) ← readPair (readValue maxDepth) cs
    let current ← addPair .dotted .headed d.current pair
    return ({ d with current }, ← lineEnd? rest)

/-- Line after line; each uses up a character at least. -/
def readLinesFrom : Nat → Draft → List Char → Option Draft
  | 0, _, _ => none
  | fuel + 1, d, cs =>
    match skipBlanks cs with
    | [] => some d
    | '#' :: rest => do readLinesFrom fuel d (← lineEnd? ('#' :: rest))
    | cs =>
      match newline? cs with
      | some rest => readLinesFrom fuel d rest
      | none => do
        let (d, rest) ← readLine d cs
        readLinesFrom fuel d rest

def parse? (text : String) : Option Entries := do
  let cs := match text.toList with
    | '\uFEFF' :: rest => rest
    | cs => cs
  let d ← readLinesFrom (cs.length + 1) {} cs
  d.close

end Relay.Toml
