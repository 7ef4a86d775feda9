import Relay.Text.Mark
import Relay.Url.Idna.Direction
import Relay.Url.Idna.Joining
import Relay.Url.Idna.Mapping
import Relay.Url.Punycode

/-!
Host names: folding to lower case, the characters a name may hold, and the ASCII form of labels
with characters outside ASCII. A name that is already ASCII and has no encoded label only loses
its capitals.
-/

namespace Relay.Url.Idna

/-- ASCII characters that no host name holds once it is folded: capitals, controls, the blank, delete
and `%#/:<>?@[\]^|`. -/
def isForbidden (c : Char) : Bool :=
  c.isUpper || c.toNat ≤ 32 || c.toNat == 127 || "%#/:<>?@[\\]^|".toList.contains c

def mappedChar? (c : Char) : Option (List Char) :=
  match mapping c with
  | .keep => some [c]
  | .dropped => some []
  | .replaced text => some text
  | .disallowed => none

def mapped (cs : List Char) : Option (List Char) :=
  (cs.mapM mappedChar?).map fun (parts : List (List Char)) => Composed.ofChars parts.flatten

/-- What a label outside ASCII has to satisfy: nothing in it is to be mapped or composed any more, it
does not start with a mark, and its joiners are in their places. -/
def isValidLabel (label : List Char) : Bool :=
  label.all (mapping · == .keep) && !(label.head?.any isMark) && Composed.ofChars label == label &&
    joinersFit [] label

def marker : List Char := ['x', 'n', '-', '-']

def decodeLabel? (label : List Char) : Option (List Char) := do
  let encoded ← marker.isPrefixOf? label
  if encoded.isEmpty ∨ encoded.getLast? = some '-' then none
  let decoded ← Punycode.decode? encoded
  if decoded.all (·.toNat < 128) ∨ ¬isValidLabel decoded then none
  return decoded

def label? (label : List Char) : Option (List Char × List Char) :=
  if label.any isForbidden then none
  else if label.all (·.toNat < 128) then
    if marker.isPrefixOf label then (decodeLabel? label).map fun decoded => (decoded, label)
    else some (label, label)
  else if ¬isValidLabel label ∨ marker.isPrefixOf label then none
  else some (label, marker ++ Punycode.encode label)

def toAscii? (cs : List Char) : Option (List Char) := do
  let name ← mapped cs
  let labels ← (name.splitOn '.').mapM label?
  let mixed := labels.any fun l => l.1.any isRightToLeft
  if mixed ∧ ¬labels.all (directionsAgree ·.1) then none
  return ['.'].intercalate (labels.map (·.2))

end Relay.Url.Idna
