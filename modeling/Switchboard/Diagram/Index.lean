import Std.Data.HashMap
import Std.Data.HashSet
import Switchboard.Diagram.Lookup

/-!
# Switchboard.Diagram.Index

An index over a diagram, built in one pass over its nodes and one over its edges. The first node of
an id keeps its place, and an edge comes behind those that leave the same id. The index answers the
questions of `Switchboard.Diagram.Lookup` without scanning the lists again: `node?_index`,
`outgoing_index` and `isTarget_index` say that the answers are the same. Each comes from what one
entry changes and, by induction on the entries, what all of them do.
-/

namespace Switchboard

structure Links where
  /-- The edges that leave each id, in order. -/
  edges : Std.HashMap String (Array Edge)
  targets : Std.HashSet String

structure Index extends Links where
  diagram : Diagram
  nodes : Std.HashMap String Node

/-- Enters a node, unless there is one with its id. -/
def enterNode (m : Std.HashMap String Node) (n : Node) : Std.HashMap String Node :=
  m.insertIfNew n.id n

namespace Links

def empty : Links := ⟨∅, ∅⟩

/-- Enters an edge behind those that leave the same id, and the id that it leads to. -/
def enter (l : Links) (e : Edge) : Links where
  edges := l.edges.alter e.source fun es => some ((es.getD #[]).push e)
  targets := l.targets.insert e.target

def outgoing (l : Links) (id : String) : List Edge := (l.edges.getD id #[]).toList

def isTarget (l : Links) (id : String) : Bool := l.targets.contains id

end Links

def Diagram.index (d : Diagram) : Index where
  toLinks := d.edges.foldl .enter .empty
  diagram := d
  nodes := d.nodes.foldl enterNode ∅

namespace Index

def node? (g : Index) (id : String) : Option Node := g.nodes[id]?

def hasNode (g : Index) (id : String) : Bool := g.nodes.contains id

def isTarget (g : Index) (id : String) : Bool := g.toLinks.isTarget id

def start? (g : Index) : Option Node :=
  (g.diagram.nodes.find? fun n => !g.isTarget n.id).or g.diagram.nodes.head?

def outgoing (g : Index) (id : String) : List Edge := g.toLinks.outgoing id

def targetOf? (g : Index) (e : Edge) : Option String :=
  if g.hasNode e.target then some e.target else none

def next? (g : Index) (id : String) : Option String :=
  (g.outgoing id).head?.bind g.targetOf?

def exit? (g : Index) (id label : String) : Option String :=
  ((g.outgoing id).find? (·.label == some label)).bind g.targetOf?

def successors (g : Index) (id : String) : List String := (g.outgoing id).map (·.target)

end Index

/-! ## Entries -/

theorem getElem?_enterNode (m : Std.HashMap String Node) (n : Node) (id : String) :
    (enterNode m n)[id]? = m[id]?.or (if n.id == id then some n else none) := by
  rw [enterNode, Std.HashMap.getElem?_insertIfNew]
  by_cases hid : n.id = id
  · subst hid
    by_cases hmem : n.id ∈ m
    · rw [if_neg fun h => h.2 hmem, Std.HashMap.getElem?_eq_some_getElem hmem, Option.some_or]
    · rw [if_pos ⟨beq_self_eq_true _, hmem⟩, Std.HashMap.getElem?_eq_none hmem, Option.none_or,
        if_pos (beq_self_eq_true _)]
  · simp [hid]

theorem getElem?_foldl_enterNode (m : Std.HashMap String Node) (ns : List Node) (id : String) :
    (ns.foldl enterNode m)[id]? = m[id]?.or (ns.find? (·.id == id)) := by
  induction ns generalizing m with
  | nil => simp
  | cons n ns ih =>
    rw [List.foldl_cons, ih, getElem?_enterNode, Option.or_assoc, List.find?_cons]
    cases n.id == id <;> rfl

namespace Links

theorem outgoing_enter (l : Links) (e : Edge) (id : String) :
    (l.enter e).outgoing id = l.outgoing id ++ if e.source == id then [e] else [] := by
  rw [outgoing, outgoing, enter, Std.HashMap.getD_alter]
  by_cases hid : e.source = id
  · subst hid
    simp [Std.HashMap.getD_eq_getD_getElem?]
  · simp [hid]

theorem isTarget_enter (l : Links) (e : Edge) (id : String) :
    (l.enter e).isTarget id = (l.isTarget id || e.target == id) := by
  rw [isTarget, isTarget, enter, Std.HashSet.contains_insert, Bool.or_comm]

theorem outgoing_foldl_enter (l : Links) (es : List Edge) (id : String) :
    (es.foldl enter l).outgoing id = l.outgoing id ++ es.filter (·.source == id) := by
  induction es generalizing l with
  | nil => simp
  | cons e es ih =>
    rw [List.foldl_cons, ih, outgoing_enter, List.append_assoc, List.filter_cons]
    cases e.source == id <;> rfl

theorem isTarget_foldl_enter (l : Links) (es : List Edge) (id : String) :
    (es.foldl enter l).isTarget id = (l.isTarget id || es.any (·.target == id)) := by
  induction es generalizing l with
  | nil => simp
  | cons e es ih => rw [List.foldl_cons, ih, isTarget_enter, Bool.or_assoc, List.any_cons]

end Links

/-! ## The answers of the index -/

namespace Diagram

@[simp] theorem diagram_index (d : Diagram) : d.index.diagram = d := rfl

@[simp] theorem node?_index (d : Diagram) (id : String) : d.index.node? id = d.node? id := by
  rw [Index.node?, index, getElem?_foldl_enterNode, Std.HashMap.getElem?_empty, Option.none_or,
    node?]

@[simp] theorem outgoing_index (d : Diagram) (id : String) :
    d.index.outgoing id = d.outgoing id := by
  have hempty : Links.empty.outgoing id = [] := by simp [Links.outgoing, Links.empty]
  rw [Index.outgoing, index, Links.outgoing_foldl_enter, hempty, List.nil_append, outgoing]

@[simp] theorem isTarget_index (d : Diagram) (id : String) :
    d.index.isTarget id = d.isTarget id := by
  have hempty : Links.empty.isTarget id = false := by simp [Links.isTarget, Links.empty]
  rw [Index.isTarget, index, Links.isTarget_foldl_enter, hempty, Bool.false_or, isTarget]

@[simp] theorem hasNode_index (d : Diagram) (id : String) :
    d.index.hasNode id = d.hasNode id := by
  rw [← isSome_node?, ← node?_index, Index.hasNode, Index.node?,
    Std.HashMap.contains_eq_isSome_getElem?]

@[simp] theorem start?_index (d : Diagram) : d.index.start? = d.start? := by
  simp [Index.start?, start?]

@[simp] theorem targetOf?_index (d : Diagram) (e : Edge) :
    d.index.targetOf? e = d.targetOf? e := by
  simp [Index.targetOf?, targetOf?]

@[simp] theorem next?_index (d : Diagram) (id : String) : d.index.next? id = d.next? id := by
  have h : d.index.targetOf? = d.targetOf? := funext (targetOf?_index d)
  simp only [Index.next?, next?, outgoing_index, h]

@[simp] theorem exit?_index (d : Diagram) (id label : String) :
    d.index.exit? id label = d.exit? id label := by
  have h : d.index.targetOf? = d.targetOf? := funext (targetOf?_index d)
  simp only [Index.exit?, exit?, outgoing_index, h]

@[simp] theorem successors_index (d : Diagram) (id : String) :
    d.index.successors id = d.successors id := by
  simp [Index.successors, successors]

end Diagram
end Switchboard
