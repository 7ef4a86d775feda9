import Relay.Text.Ascii

/-!
The request methods that are forwarded.
-/

namespace Relay

inductive Method
  | get | post | put | delete | patch | options | head
deriving DecidableEq, Repr, Inhabited

namespace Method

def all : List Method := [.get, .post, .put, .delete, .patch, .options, .head]

def name : Method → String
  | .get => "GET"
  | .post => "POST"
  | .put => "PUT"
  | .delete => "DELETE"
  | .patch => "PATCH"
  | .options => "OPTIONS"
  | .head => "HEAD"

def ofName? (s : String) : Option Method :=
  all.find? fun m => m.name == Ascii.upper s

theorem ofName?_name (m : Method) : ofName? m.name = some m := by
  cases m <;> decide +kernel

end Relay.Method
