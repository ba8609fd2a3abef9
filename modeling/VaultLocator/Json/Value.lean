import VaultLocator.Dict
import VaultLocator.Json.Double

/-!
# JSON values

The raw values of a vault are JSON. A number is an integer when it is written without fraction and
exponent and fits 64 bits, and a double otherwise. The members of an object are a list: one that
was read from a text, or built by `VaultLocator.Json.object`, has its keys in increasing order and
none twice, while the written form of a structure keeps the order in which the structure declares
its members. Looking a member up does not depend on the order.
-/

namespace VaultLocator

/-- A JSON number. -/
inductive Number
  /-- An integer of 64 bits, with or without a sign. -/
  | int (value : Int)
  /-- Any other number. -/
  | double (value : Double)
  deriving DecidableEq

/-- A JSON value. -/
inductive Json
  | null
  | bool (value : Bool)
  | num (value : Number)
  | str (value : String)
  | arr (items : List Json)
  | obj (members : List (String × Json))
  deriving Inhabited

namespace Json

/-- The object with the given members in the order of their keys; of two members with one key the
last wins. -/
def object (members : List (String × Json)) : Json :=
  .obj (Dict.ofList members).entries

/-- The member of an object under a key; no other value has members. -/
def member? (key : String) : Json → Option Json
  | .obj members => Dict.find? key members
  | _ => none

/-- The text of a JSON text. -/
def text? : Json → Option String
  | .str s => some s
  | _ => none

/-- The items of an array. -/
def items? : Json → Option (List Json)
  | .arr items => some items
  | _ => none

/-- The natural below `2 ^ 64` that an integer is. -/
def size? : Json → Option UInt64
  | .num (.int i) => if 0 ≤ i ∧ i < UInt64.size then some (UInt64.ofNat i.toNat) else none
  | _ => none

/-- An unsigned 64-bit integer as a JSON number. -/
def ofSize (n : UInt64) : Json :=
  .num (.int n.toNat)

/-- A text, or null for the lack of one. -/
def ofText? : Option String → Json
  | some s => .str s
  | none => .null

end Json

end VaultLocator
