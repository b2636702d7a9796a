import Switchboard.Diagram.Step

/-!
# Switchboard.Diagram.Basic

Call diagrams: nodes, and labelled edges between node ids. A diagram may be any pair of lists: an
id may occur twice, and an edge may name an id that no node has.
-/

namespace Switchboard

/-- Where the editor draws a node; no compilation looks at it. -/
structure Position where
  x : Binary64
  y : Binary64
deriving DecidableEq, Repr

structure Node where
  id : String
  tag : String
  position : Option Position
  step : Step
deriving Repr

namespace Node

def ofBag (id tag : String) (bag : Bag) : Node where
  id := id
  tag := tag
  position := none
  step := .ofBag (.ofTag tag) bag

def ofStep (id : String) (step : Step) : Node where
  id := id
  tag := step.family.canonicalTag
  position := none
  step := step

end Node

structure Edge where
  id : String
  source : String
  target : String
  label : Option String
deriving DecidableEq, Repr

structure Diagram where
  nodes : List Node
  edges : List Edge
deriving Repr

namespace Diagram

def empty : Diagram := ⟨[], []⟩

def isEmpty (d : Diagram) : Bool := d.nodes.isEmpty

/-- The ids of the nodes, in order, repeated ids included. -/
def ids (d : Diagram) : List String := d.nodes.map (·.id)

end Diagram
end Switchboard
