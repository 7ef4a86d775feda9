/-!
Mount prefixes: the paths under which requests arrive and that the origin server does not know. The
first listed prefix that ends at a segment boundary is removed, once.
-/

namespace Relay.Mount

/-- What follows a prefix that ends at a segment boundary of the path. -/
def rest? (mount path : List Char) : Option (List Char) :=
  match mount.isPrefixOf? path with
  | some [] => some []
  | some ('/' :: rest) => some ('/' :: rest)
  | _ => none

def matching (mounts : List String) (path : String) : Option String :=
  mounts.find? fun m => (rest? m.toList path.toList).isSome

def strip (mounts : List String) (path : String) : String :=
  match mounts.findSome? fun m => rest? m.toList path.toList with
  | some rest => String.ofList rest
  | none => path

end Relay.Mount
