import Relay.Text.Ascii
import Relay.Text.Utf8

/-!
Header fields of a message: which names and values are allowed, and lists of them. Names in a list
are lower case; a name may occur several times, and its values keep their order.
-/

namespace Relay.Http

def isTokenChar (c : Char) : Bool :=
  c.isAlphanum || "!#$%&'*+-.^_|~".toList.contains c || c == '\x60'

def isToken (s : String) : Bool :=
  !s.isEmpty && s.toList.all isTokenChar

def isHeaderName (s : String) : Bool :=
  isToken s && s.toList.length ≤ 65535

def isValueByte (b : UInt8) : Bool :=
  b.toNat == 9 || (32 ≤ b.toNat && b.toNat != 127)

def isHeaderValue (bs : Bytes) : Bool := bs.all isValueByte

def isTextByte (b : UInt8) : Bool :=
  b.toNat == 9 || (32 ≤ b.toNat && b.toNat < 127)

def headerText? (bs : Bytes) : Option String :=
  if bs.all isTextByte then some (String.ofList (bs.map fun b => Char.ofNat b.toNat)) else none

abbrev Headers := List (String × Bytes)

namespace Headers

def values (hs : Headers) (name : String) : List Bytes :=
  (hs.filter fun h => h.1 == name).map (·.2)

def get? (hs : Headers) (name : String) : Option Bytes :=
  (hs.find? fun h => h.1 == name).map (·.2)

def contains (hs : Headers) (name : String) : Bool :=
  hs.any fun h => h.1 == name

def erase (hs : Headers) (name : String) : Headers :=
  hs.filter fun h => h.1 != name

def set (hs : Headers) (name : String) (value : Bytes) : Headers :=
  hs.erase name ++ [(name, value)]

def names (hs : Headers) : List String :=
  (hs.map (·.1)).eraseDups

def sorted (hs : Headers) : Headers :=
  hs.mergeSort fun a b => decide (a.1 ≤ b.1)

end Relay.Http.Headers
