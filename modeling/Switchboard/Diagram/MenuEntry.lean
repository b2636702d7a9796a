import Switchboard.Diagram.Bag
import Switchboard.Json.Reader

/-!
# Switchboard.Diagram.MenuEntry

The entries of a node's `menuOptions` property. Two shapes are in use, `key`, `label` and `value`
on gather nodes and `option`, `destination` and more on menu nodes; an entry holds both.

The property is an array, or text that encodes one. `MenuEntry.readAll` says what else it found;
a bad property never stops a compilation, it only means that there are no entries.
-/

namespace Switchboard

structure MenuEntry where
  key : Option String
  label : Option String
  value : Option String
  option : Option String
  destination : Option String
  order : Option Nat
  description : Option String
  enabled : Option Bool
deriving DecidableEq, Repr

inductive EntryFault where
  | notArray (typeName : String)
  /-- It is not JSON; `excerpt` is its beginning. -/
  | unreadable (excerpt : String)
deriving DecidableEq, Repr

namespace MenuEntry

def ofBag (bag : Bag) : MenuEntry where
  key := bag.text? "key"
  label := bag.text? "label"
  value := bag.text? "value"
  option := bag.text? "option"
  destination := bag.text? "destination"
  order := bag.count? "order"
  description := bag.text? "description"
  enabled := bag.flag? "enabled"

/-- An item that is no object still takes its place, with nothing set. -/
def ofJson : Json → MenuEntry
  | .object members => ofBag members
  | _ => ofBag []

def matchesLabel (e : MenuEntry) (label : String) : Bool :=
  e.value == some label || e.key == some label || e.label == some label

def excerptLength : Nat := 200

/-- Reads the property. Text that is blank stands for no entries. -/
def readAll : Option Json → Except EntryFault (List MenuEntry)
  | some (.array items) => .ok (items.map ofJson)
  | some (.string s) =>
    if s.toList.all Text.isBlank then .ok []
    else
      match Json.parse? s with
      | some (.array items) => .ok (items.map ofJson)
      | some v => .error (.notArray v.typeName)
      | none => .error (.unreadable (String.ofList (s.toList.take excerptLength)))
  | _ => .ok []

def ofProperty (v : Option Json) : List MenuEntry :=
  match readAll v with
  | .ok entries => entries
  | .error _ => []

def fault? (v : Option Json) : Option EntryFault :=
  match readAll v with
  | .ok _ => none
  | .error f => some f

end MenuEntry
end Switchboard
