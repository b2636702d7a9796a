import Switchboard.Json.Value
import Switchboard.Text.Blank

/-!
# Switchboard.Diagram.Bag

The open properties of a diagram's node, and the lenient ways to read one of them. Editors write
numbers as text and text as numbers, and an empty field for one that is not set; each reader here
takes whatever still has a plain meaning and treats the rest as not set.
-/

namespace Switchboard

/-- Named values with pairwise different names. -/
abbrev Bag := List (String × Json)

def maxCount : Nat := 4294967295

namespace Bag

def get? (bag : Bag) (name : String) : Option Json := bag.lookup name

/-- A text that is not empty; numbers and truth values count by their JSON text. -/
def text? (bag : Bag) (name : String) : Option String :=
  match bag.get? name with
  | some (.string s) => if s.isEmpty then none else some s
  | some (.number n) => some n.text
  | some (.bool b) => some (if b then "true" else "false")
  | _ => none

/-- A finite number, perhaps written as text with blanks around it. -/
def number? (bag : Bag) (name : String) : Option Binary64 :=
  match bag.get? name with
  | some (.number n) => some n.toBinary64
  | some (.string s) => (Decimal.read (Text.trim s.toList)).bind Decimal.toBinary64?
  | _ => none

/-- The nearest count, a half upwards, at most `maxCount`. -/
def toCount (x : Binary64) : Nat := min x.roundHalfAway maxCount

def positive? (bag : Bag) (name : String) : Option Nat :=
  match bag.number? name with
  | some x => if x.isPositive then some (toCount x) else none
  | none => none

def count? (bag : Bag) (name : String) : Option Nat :=
  match bag.number? name with
  | some x => if x.isNonnegative then some (toCount x) else none
  | none => none

/-- A truth value, perhaps spelled out as text. -/
def flag? (bag : Bag) (name : String) : Option Bool :=
  match bag.get? name with
  | some (.bool b) => some b
  | some (.string s) =>
    if s = "true" then some true else if s = "false" then some false else none
  | _ => none

end Bag
end Switchboard
