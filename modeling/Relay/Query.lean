import Relay.Percent
import Relay.TextMap

/-!
Query strings as maps: `name=value` pairs joined by `&`, a blank written `+`, and every byte but
letters, digits and `* - . _` escaped. Writing lists the names in order; reading keeps the last
value of a name and reads malformed UTF-8 as `U+FFFD`.
-/

namespace Relay.Query

def isPlain (b : UInt8) : Bool :=
  let c := Char.ofNat b.toNat
  b.toNat < 128 && (c.isAlphanum || c == '*' || c == '-' || c == '.' || c == '_')

def encodeByte (b : UInt8) : List Char :=
  if b.toNat = 32 then ['+']
  else if isPlain b then [Char.ofNat b.toNat]
  else Percent.escape b

def encodeText (s : String) : List Char :=
  (Utf8.encode s).flatMap encodeByte

def encodePair (p : String × String) : List Char :=
  encodeText p.1 ++ '=' :: encodeText p.2

def serialize (m : TextMap) : Option String :=
  if m.isEmpty then none
  else some (String.ofList (['&'].intercalate (m.entries.map encodePair)))

def decodeText (bs : Bytes) : String :=
  Utf8.decodeLossy (Percent.decode (bs.map fun b => if b = 43 then 32 else b))

def decodePair (piece : Bytes) : String × String :=
  (decodeText (piece.takeWhile (· ≠ 61)), decodeText ((piece.dropWhile (· ≠ 61)).drop 1))

/-- The pairs of a query string in order; empty pieces count for nothing. -/
def pairs (s : String) : List (String × String) :=
  (((Utf8.encode s).splitOn 38).filter (· ≠ [])).map decodePair

def parse (s : String) : TextMap := TextMap.ofList (pairs s)

end Relay.Query
