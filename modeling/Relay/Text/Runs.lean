import Relay.Text.Ascii

/-!
Properties of characters, given for runs of code points. A table is made of words such as `300:m`:
from `U+0300` up to the start of the next run the value is `m`.
-/

namespace Relay

abbrev Runs := List (Nat × String)

namespace Runs

def hexNumber (cs : List Char) : Nat :=
  cs.foldl (fun n c => 16 * n + (Ascii.hexValue? c).getD 0) 0

def entry (word : String) : Nat × String :=
  let front := word.toList.takeWhile (· ≠ ':')
  (hexNumber front, String.ofList (word.toList.drop (front.length + 1)))

def ofLines (lines : List String) : Runs :=
  lines.flatMap fun line => (line.splitOn " ").map entry

/-- The value at a character: that of the last run that starts at or before it. -/
def value (runs : Runs) (c : Char) : String :=
  (((runs.takeWhile (·.1 ≤ c.toNat)).getLast?).map (·.2)).getD ""

end Relay.Runs
