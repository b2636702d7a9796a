import Switchboard.Json.Value
import Switchboard.OrderedMap

/-!
# Switchboard.Flow.Transitions

The outcomes of a state in the order of their first mention, each with the state that it leads to
or with none. An outcome that leads nowhere is still an outcome of the state.
-/

namespace Switchboard

abbrev Transitions := OrderedMap (Option String)

namespace Transitions

def empty : Transitions := OrderedMap.empty

/-- Lets `outcome` lead to `target`, or nowhere; an outcome that is there keeps its place. -/
def set (t : Transitions) (outcome : String) (target : Option String) : Transitions :=
  t.insert outcome target

/-- Where an outcome leads; nowhere if there is no such outcome. -/
def target? (t : Transitions) (outcome : String) : Option String := (t.get? outcome).join

def defines (t : Transitions) (outcome : String) : Bool := t.contains outcome

def outcomes (t : Transitions) : List String := t.keys

def targets (t : Transitions) : List String := t.values.filterMap id

def toJson (t : Transitions) : Json :=
  .object (t.entries.map fun (outcome, target) => (outcome, .ofText? target))

end Transitions
end Switchboard
