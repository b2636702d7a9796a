import Switchboard.Number.Shortest
import Switchboard.OrderedMap

/-!
# Switchboard.Json.Value

JSON values. A number is an integer or a double, never both: what is written without a fraction
and an exponent and fits in 64 bits stays an integer. The members of an object have pairwise
different names and keep an order.
-/

namespace Switchboard

inductive Number where
  | integer (value : Int)
  | float (value : Binary64)
deriving DecidableEq, Repr

namespace Number

def text : Number → String
  | .integer i => toString i
  | .float x => x.text

def toBinary64 : Number → Binary64
  | .integer i => .ofInt i
  | .float x => x

end Number

inductive Json where
  | null
  | bool (value : Bool)
  | number (value : Number)
  | string (value : String)
  | array (items : List Json)
  | object (members : List (String × Json))
deriving Repr, Inhabited

namespace Json

def nat (n : Nat) : Json := .number (.integer n)

/-- Text, or `null` when there is none. -/
def ofText? : Option String → Json
  | some s => .string s
  | none => .null

def typeName : Json → String
  | .null => "null"
  | .bool _ => "boolean"
  | .number _ => "number"
  | .string _ => "string"
  | .array _ => "array"
  | .object _ => "object"

/-- The object with these members; of two members of one name the later counts. -/
def ofMembers (members : List (String × Json)) : Json :=
  .object (members.foldl (fun done (name, v) => setEntry name v done) [])

end Json
end Switchboard
