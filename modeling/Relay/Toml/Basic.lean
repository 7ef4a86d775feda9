import Relay.Binary64

/-!
TOML documents: tables of values. A table remembers how it was written, because that decides whether
a later line may add to it.
-/

namespace Relay

namespace Toml

inductive TableKind
  /-- Under its own `[header]`, or the document itself. -/
  | headed
  /-- Mentioned in a header of a table below it. -/
  | implied
  /-- Made by a dotted key. -/
  | dotted
  /-- Between braces. -/
  | inline
  /-- Made by a dotted key between braces. -/
  | inlineDotted
deriving DecidableEq, Repr

/-- Made on the way to something below, so that more may be added. -/
def TableKind.isOpen : TableKind → Bool
  | .implied | .dotted | .inlineDotted => true
  | _ => false

def TableKind.isDotted : TableKind → Bool
  | .dotted | .inlineDotted => true
  | _ => false

inductive Real
  | finite (value : Binary64)
  | infinite (negative : Bool)
  | nan
deriving DecidableEq, Repr

def Real.text : Real → String
  | .finite x => x.plainText
  | .infinite negative => if negative then "-inf" else "inf"
  | .nan => "NaN"

end Toml

inductive Toml
  | text (value : String)
  | integer (value : Int)
  | real (value : Toml.Real)
  | flag (value : Bool)
  | moment
  | list (items : List Toml)
  | table (kind : Toml.TableKind) (entries : List (String × Toml))
  | tables (items : List (List (String × Toml)))
deriving Repr, Inhabited

namespace Toml

abbrev Entries := List (String × Toml)

def putEntry (key : String) (value : Toml) : Entries → Entries
  | [] => [(key, value)]
  | (k, v) :: rest => if k = key then (k, value) :: rest else (k, v) :: putEntry key value rest

/-- Changes the table that a path of keys leads to. Missing tables on the way are made, of the kind
`fresh`; `descend` says which of the existing ones may be entered. Of a list of tables the last one
is meant. -/
def updateAt (fresh : TableKind) (descend : TableKind → Bool)
    (change : TableKind → Entries → Option Entries) :
    List String → TableKind → Entries → Option Entries
  | [], kind, entries => change kind entries
  | key :: path, _, entries => do
    match entries.lookup key with
    | none =>
      let below ← updateAt fresh descend change path fresh []
      return entries ++ [(key, .table fresh below)]
    | some (.table kind inner) =>
      if !descend kind then none
      let below ← updateAt fresh descend change path kind inner
      return putEntry key (.table kind below) entries
    | some (.tables items) =>
      let last ← items.getLast?
      let below ← updateAt fresh descend change path .headed last
      return putEntry key (.tables (items.dropLast ++ [below])) entries
    | some _ => none

/-- Adds an entry to the table of a dotted key; none may be there yet, and a table written in
another way may not be added to. -/
def addEntry (isDotted : Bool) (key : String) (value : Toml) (kind : TableKind) (entries : Entries) :
    Option Entries :=
  if kind.isDotted ≠ isDotted ∨ (entries.lookup key).isSome then none
  else some (entries ++ [(key, value)])

end Relay.Toml
