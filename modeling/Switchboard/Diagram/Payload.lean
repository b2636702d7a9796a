import Switchboard.Diagram.Basic
import Switchboard.Json.Record

/-!
# Switchboard.Diagram.Payload

A diagram as the editor saves it, and the diagram that it stands for. A node's own tag and
properties are those in its `data`; the ones beside it belong to the canvas and only stand in for
missing ones. Node ids have to be unique.
-/

namespace Switchboard

structure PayloadData where
  tag : Option String
  properties : Option Bag

structure PayloadNode where
  id : String
  tag : Option String
  position : Option Position
  data : Option PayloadData
  properties : Option Bag

structure PayloadEdge where
  id : Option String
  source : String
  target : String
  label : Option String
  /-- The label inside the edge's `data`; the outer option says whether there is any `data`. -/
  data : Option (Option String)

structure Payload where
  nodes : List PayloadNode
  edges : List PayloadEdge

inductive DiagramError where
  | malformed (detail : String)
  | duplicateId (id : String)
  /-- Data of another form is not valid. -/
  | invalid (detail : String)
deriving DecidableEq, Repr

def DiagramError.message : DiagramError → String
  | .malformed detail => "Failed to parse diagram JSON: " ++ detail
  | .duplicateId id => "Node id '" ++ id ++ "' is used by more than one node"
  | .invalid detail => "Invalid custom data: " ++ detail

/-! ## From a payload to a diagram -/

namespace PayloadNode

/-- The tag in `data` unless it is empty, else the tag beside it, else `unknown`. -/
def effectiveTag (n : PayloadNode) : String :=
  match n.data.bind (·.tag) with
  | some t => if t.isEmpty then n.tag.getD "unknown" else t
  | none => n.tag.getD "unknown"

/-- The properties in `data`, else those beside it, else none. -/
def effectiveBag (n : PayloadNode) : Bag :=
  ((n.data.bind (·.properties)).or n.properties).getD []

def toNode (n : PayloadNode) : Node :=
  { Node.ofBag n.id n.effectiveTag n.effectiveBag with position := n.position }

end PayloadNode

namespace PayloadEdge

/-- The label in `data`, else the one beside it; an empty one is none. -/
def effectiveLabel (e : PayloadEdge) : Option String :=
  ((e.data.getD none).or e.label).filter fun l => !l.isEmpty

/-- The edge at place `index`, which names an edge without an id. -/
def toEdge (index : Nat) (e : PayloadEdge) : Edge where
  id := e.id.getD ("edge-" ++ toString index)
  source := e.source
  target := e.target
  label := e.effectiveLabel

end PayloadEdge

/-- The first id that has occurred before, given the ids `seen` so far. -/
def firstRepeated? (seen : List String) : List String → Option String
  | [] => none
  | id :: ids => if id ∈ seen then some id else firstRepeated? (id :: seen) ids

namespace Diagram

def checkIds (d : Diagram) : Except DiagramError Diagram :=
  match firstRepeated? [] d.ids with
  | some id => .error (.duplicateId id)
  | none => .ok d

end Diagram

namespace Payload

def toDiagram (p : Payload) : Diagram where
  nodes := p.nodes.map (·.toNode)
  edges := p.edges.mapIdx fun i e => e.toEdge i

/-! ## Reading -/

open Json

def positionOfTree? (t : Tree) : Option Position :=
  match slots? ["x", "y"] t with
  | some [x, y] => do
    some { x := ← FieldReader.required Tree.double? x, y := ← FieldReader.required Tree.double? y }
  | _ => none

/-- A record that nests at most `depth` brackets, its own included, has one less left inside. -/
def inside {α : Type} (read : (depth : Nat) → Tree → Option α) : (depth : Nat) → Tree → Option α
  | 0, _ => none
  | d + 1, t => read d t

def dataOfTree? (depth : Nat) (t : Tree) : Option PayloadData :=
  match slots? ["type", "properties"] t with
  | some [tag, properties] => do
    some {
      tag := ← FieldReader.optional Tree.string? tag
      properties := ← FieldReader.optional (Tree.members? depth) properties
    }
  | _ => none

def nodeOfTree? (depth : Nat) (t : Tree) : Option PayloadNode :=
  match slots? ["id", "type", "position", "data", "properties"] t with
  | some [id, tag, position, data, properties] => do
    some {
      id := ← FieldReader.required Tree.string? id
      tag := ← FieldReader.optional Tree.string? tag
      position := ← FieldReader.optional positionOfTree? position
      data := ← FieldReader.optional (inside dataOfTree? depth) data
      properties := ← FieldReader.optional (Tree.members? depth) properties
    }
  | _ => none

def edgeDataOfTree? (t : Tree) : Option (Option String) :=
  match slots? ["label"] t with
  | some [label] => FieldReader.optional Tree.string? label
  | _ => none

def edgeOfTree? (t : Tree) : Option PayloadEdge :=
  match slots? ["id", "source", "target", "label", "data"] t with
  | some [id, source, target, label, data] => do
    some {
      id := ← FieldReader.optional Tree.string? id
      source := ← FieldReader.required Tree.string? source
      target := ← FieldReader.required Tree.string? target
      label := ← FieldReader.optional Tree.string? label
      data := ← FieldReader.optional edgeDataOfTree? data
    }
  | _ => none

def ofTree? (depth : Nat) (t : Tree) : Option Payload :=
  match slots? ["nodes", "edges"] t with
  | some [nodes, edges] => do
    some {
      nodes := ← FieldReader.withDefault [] (Tree.list? (inside nodeOfTree?) depth) nodes
      edges := ← FieldReader.withDefault [] (Tree.list? (fun _ => edgeOfTree?) depth) edges
    }
  | _ => none

def read (s : String) : Except DiagramError Payload :=
  match (Json.Tree.ofChars? s.toList).bind (inside ofTree? nestingLimit) with
  | some p => .ok p
  | none => .error (.malformed "the text is not a saved diagram")

end Payload

def Diagram.read (s : String) : Except DiagramError Diagram :=
  match Payload.read s with
  | .ok p => p.toDiagram.checkIds
  | .error e => .error e

end Switchboard
