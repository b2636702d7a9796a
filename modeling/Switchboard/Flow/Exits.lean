import Switchboard.Diagram.Index
import Switchboard.Flow.State

/-!
# Switchboard.Flow.Exits

From nodes to states, the same way for every target: which outcomes a node has, which edge each of
them takes, and how the states are put together. Only the action of a state depends on the target.
-/

namespace Switchboard

/-- Which edge of a node an outcome takes. -/
inductive Exit where
  /-- The first one, whatever its label. -/
  | first
  /-- The first one with this label. -/
  | labelled (label : String)
deriving DecidableEq, Repr

def Step.exits : Step → List (String × Exit)
  | .gather _ => [("next", .first), ("timeout", .labelled "timeout")]
  | .forward _ => [
      ("answered", .labelled "Success"),
      ("no_answer", .labelled "No Answer"),
      ("busy", .labelled "Busy"),
      ("declined", .labelled "Decline"),
      ("failed", .labelled "Error")]
  | .hangUp _ => []
  | .record _ => [("recording_complete", .first)]
  | .sms _ => [("sent", .first), ("failed", .labelled "Failure")]
  | .answer | .play _ | .menu _ | .other _ => [("next", .first)]

/-- A diagram without nodes compiles to nothing. -/
inductive CompileError where
  | emptyDiagram
  | noStart
deriving DecidableEq, Repr

def CompileError.message : CompileError → String
  | .emptyDiagram => "Workflow must have at least one node"
  | .noStart => "No start node found"

namespace Index

def follow (g : Index) (id : String) : Exit → Option String
  | .first => g.next? id
  | .labelled label => g.exit? id label

/-- Every outcome of a node, also those without a matching edge. -/
def transitions (g : Index) (n : Node) : Transitions :=
  .ofList (n.step.exits.map fun (outcome, exit) => (outcome, g.follow n.id exit))

def state {α : Type} (g : Index) (action : Node → α) (n : Node) : State α where
  name := n.id
  transitions := g.transitions n
  action := action n

/-- The nodes of these ids, for each id the first one. -/
def nodesOf (g : Index) (ids : List String) : List Node := ids.filterMap g.node?

/-- The states of these ids, in the order in which each id first comes. -/
def states {α : Type} (g : Index) (action : Node → α) (ids : List String) : States α :=
  .ofList ((g.nodesOf ids).map fun n => (n.id, g.state action n))

def startId (g : Index) : Except CompileError String :=
  if g.diagram.isEmpty then .error .emptyDiagram
  else
    match g.start? with
    | some n => .ok n.id
    | none => .error .noStart

end Index
end Switchboard
