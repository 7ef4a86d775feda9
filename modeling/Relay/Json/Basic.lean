import Relay.Binary64

/-!
JSON values. Integers are kept exactly as long as they fit 64 bits, members in the order of their
first mention.
-/

namespace Relay

namespace Json

/-- Integers that some 64-bit type holds, and all other numbers. -/
inductive Number
  | integer (value : Int)
  | float (value : Binary64)
deriving DecidableEq, Repr

end Json

inductive Json
  | null
  | bool (value : Bool)
  | number (value : Json.Number)
  | string (value : String)
  | array (items : List Json)
  | object (members : List (String × Json))
deriving Repr, Inhabited

namespace Json

def putMember (name : String) (value : Json) : List (String × Json) → List (String × Json)
  | [] => [(name, value)]
  | (n, v) :: rest => if n = name then (n, value) :: rest else (n, v) :: putMember name value rest

/-! ### Equality -/

mutual

/-- Equality, which is not derived for values that nest in lists. -/
def same : Json → Json → Bool
  | .null, .null => true
  | .bool a, .bool b => a = b
  | .number a, .number b => a = b
  | .string a, .string b => a = b
  | .array items, .array others => sameItems items others
  | .object members, .object others => sameMembers members others
  | _, _ => false

def sameItems : List Json → List Json → Bool
  | [], [] => true
  | [], _ :: _ => false
  | _ :: _, [] => false
  | v :: items, w :: others => same v w && sameItems items others

def sameMembers : List (String × Json) → List (String × Json) → Bool
  | [], [] => true
  | [], _ :: _ => false
  | _ :: _, [] => false
  | (m, v) :: members, (n, w) :: others => m = n && same v w && sameMembers members others

end

mutual

theorem same_iff : ∀ v w : Json, same v w = true ↔ v = w
  | .array items, w => by
    cases w <;> simp [same, sameItems_iff items]
  | .object members, w => by
    cases w <;> simp [same, sameMembers_iff members]
  | .null, w => by cases w <;> simp [same]
  | .bool _, w => by cases w <;> simp [same]
  | .number _, w => by cases w <;> simp [same]
  | .string _, w => by cases w <;> simp [same]

theorem sameItems_iff : ∀ items others : List Json, sameItems items others = true ↔ items = others
  | [], others => by cases others <;> simp [sameItems]
  | v :: items, others => by cases others <;> simp [sameItems, same_iff v, sameItems_iff items]

theorem sameMembers_iff :
    ∀ members others : List (String × Json), sameMembers members others = true ↔ members = others
  | [], others => by cases others <;> simp [sameMembers]
  | (m, v) :: members, others => by
    cases others <;> simp [sameMembers, same_iff v, sameMembers_iff members, and_assoc, Prod.ext_iff]

end

instance : DecidableEq Json := fun v w => decidable_of_iff _ (same_iff v w)

end Relay.Json
