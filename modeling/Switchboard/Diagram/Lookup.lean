import Switchboard.Diagram.Basic

/-!
# Switchboard.Diagram.Lookup

Questions about a diagram, answered by a scan in the order of its lists. All of them are total:
a missing node, a dangling edge or a cycle gives no answer or an empty one. Where several nodes or
edges qualify, the first one counts.
-/

namespace Switchboard
namespace Diagram

def node? (d : Diagram) (id : String) : Option Node := d.nodes.find? (·.id == id)

def hasNode (d : Diagram) (id : String) : Bool := d.nodes.any (·.id == id)

def isTarget (d : Diagram) (id : String) : Bool := d.edges.any (·.target == id)

/-- The first node that no edge leads to, or else the first node. -/
def start? (d : Diagram) : Option Node :=
  (d.nodes.find? fun n => !d.isTarget n.id).or d.nodes.head?

def outgoing (d : Diagram) (id : String) : List Edge := d.edges.filter (·.source == id)

def targetOf? (d : Diagram) (e : Edge) : Option String :=
  if d.hasNode e.target then some e.target else none

/-- Where the first edge leads that leaves this id, whatever its label. If that edge dangles, no
later edge stands in for it. -/
def next? (d : Diagram) (id : String) : Option String :=
  (d.outgoing id).head?.bind d.targetOf?

/-- Where the first edge with exactly this label leads that leaves this id. -/
def exit? (d : Diagram) (id label : String) : Option String :=
  ((d.outgoing id).find? (·.label == some label)).bind d.targetOf?

/-- Where the edges that leave this id lead, in order, whether or not nodes are there. -/
def successors (d : Diagram) (id : String) : List String := (d.outgoing id).map (·.target)

theorem isSome_node? (d : Diagram) (id : String) : (d.node? id).isSome = d.hasNode id := by
  rw [Bool.eq_iff_iff]
  simp [node?, hasNode]

theorem id_of_node? {d : Diagram} {id : String} {n : Node} (h : d.node? id = some n) :
    n.id = id := by
  simpa using List.find?_some h

theorem isSome_start? (d : Diagram) : d.start?.isSome = !d.isEmpty := by
  unfold start? isEmpty
  cases h : d.nodes with
  | nil => rfl
  | cons n ns => cases (n :: ns).find? fun n => !d.isTarget n.id <;> rfl

end Diagram
end Switchboard
