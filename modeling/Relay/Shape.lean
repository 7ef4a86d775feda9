import Relay.Text.Quoted

/-!
What a document holds where something else was expected, and how a message describes it. Floats
stand as their document's format writes them.
-/

namespace Relay

inductive Shape
  | null
  | flag (value : Bool)
  | integer (value : Int)
  | float (written : String)
  | text (value : String)
  | sequence
  | map
deriving DecidableEq, Repr

def Shape.describe : Shape → String
  | .null => "null"
  | .flag b => s!"boolean \x60{b}\x60"
  | .integer n => s!"integer \x60{n}\x60"
  | .float written => s!"floating point \x60{written}\x60"
  | .text s => s!"string {Quoted.quote s}"
  | .sequence => "sequence"
  | .map => "map"

end Relay
