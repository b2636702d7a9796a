import Switchboard.Flow.Cloud
import Switchboard.Menu.Extraction
import Switchboard.Proofs.Diagram.Path

/-!
# Switchboard.Proofs.Diagram.Untagged

Who looks at the type tag of a node once its step has been read from it: the action of a step
without an action of its own, and the greeting of a play node. `Diagram.untagged` is the diagram
without its tags. All that is asked of the edges and the steps has the same answer there: where
calls begin, where an exit leads, which path a search finds, what a menu is extracted from and where
its options lead.
-/

namespace Switchboard

def Node.untagged (n : Node) : Node := { n with tag := "" }

@[simp] theorem Node.id_untagged (n : Node) : n.untagged.id = n.id := rfl

@[simp] theorem Node.step_untagged (n : Node) : n.untagged.step = n.step := rfl

/-! ## Who looks at tags -/

namespace Step

variable {s : Step} (hmenu : s.family ≠ .menu) (hother : s.family ≠ .other) (tag tag' : String)
include hmenu hother

/-- Only a step without an action of its own says the tag of its node. -/
theorem cloudAction_tag_eq (o : Options) : s.cloudAction o tag = s.cloudAction o tag' := by
  cases s with
  | menu => exact absurd rfl hmenu
  | other => exact absurd rfl hother
  | _ => rfl

theorem pbxAction_tag_eq : s.pbxAction tag = s.pbxAction tag' := by
  cases s with
  | menu => exact absurd rfl hmenu
  | other => exact absurd rfl hother
  | _ => rfl

end Step

/-- Only whether a play node greets hangs on its tag. -/
theorem Node.greeting?_tag_eq {n : Node} (hplay : n.step.family ≠ .play) (tag : String) :
    { n with tag := tag }.greeting? = n.greeting? := by
  rw [greeting?, greeting?]
  cases hs : n.step with
  | play =>
    rw [hs] at hplay
    exact absurd rfl hplay
  | _ => rfl

namespace Diagram

def untagged (d : Diagram) : Diagram := { d with nodes := d.nodes.map Node.untagged }

variable (d : Diagram) (id : String)

/-! ## Nodes, edges and paths -/

@[simp] theorem ids_untagged : d.untagged.ids = d.ids := by
  simp [ids, untagged, Function.comp_def]

@[simp] theorem node?_untagged : d.untagged.node? id = (d.node? id).map Node.untagged := by
  rw [node?, untagged, List.find?_map]
  rfl

@[simp] theorem hasNode_untagged : d.untagged.hasNode id = d.hasNode id := by
  rw [← isSome_node?, ← isSome_node?, node?_untagged, Option.isSome_map]

@[simp] theorem start?_untagged : d.untagged.start? = d.start?.map Node.untagged := by
  rw [start?, untagged, List.find?_map, List.head?_map, start?, Option.map_or]
  rfl

@[simp] theorem outgoing_untagged : d.untagged.outgoing id = d.outgoing id := rfl

@[simp] theorem targetOf?_untagged (e : Edge) : d.untagged.targetOf? e = d.targetOf? e := by
  simp [targetOf?]

@[simp] theorem next?_untagged : d.untagged.next? id = d.next? id := by
  simp [next?, funext d.targetOf?_untagged]

@[simp] theorem exit?_untagged (label : String) : d.untagged.exit? id label = d.exit? id label := by
  simp [exit?, funext d.targetOf?_untagged]

@[simp] theorem follow_untagged (x : Exit) :
    d.untagged.index.follow id x = d.index.follow id x := by
  cases x <;> simp [Index.follow]

theorem transitions_untagged (n : Node) :
    d.untagged.index.transitions n.untagged = d.index.transitions n := by
  simp [Index.transitions]

@[simp] theorem path_untagged (goal : String) :
    d.untagged.index.path id goal = d.index.path id goal :=
  path_index_congr goal (d.hasNode_untagged id) fun _ _ => rfl

/-! ## Menus -/

@[simp] theorem anchor_untagged : d.untagged.anchor = d.anchor := by
  have hmenu : d.untagged.menuNode? = d.menuNode? := by
    rw [menuNode?, untagged, List.findSome?_map]
    rfl
  have hgather : d.untagged.gatherNode? = d.gatherNode? := by
    rw [gatherNode?, untagged, List.findSome?_map]
    rfl
  rw [anchor, anchor, hmenu, hgather]

variable (o : Options)

theorem resolveFrom_untagged (fresh : List String) :
    d.untagged.index.resolveFrom o fresh id = d.index.resolveFrom o fresh id := by
  fun_induction Index.resolveFrom d.index o fresh id with
  | case1 fresh id hn =>
    rw [node?_index] at hn
    rw [Index.resolveFrom, node?_index, node?_untagged, hn]
    rfl
  | case2 fresh id n hn hfresh dest hdest =>
    rw [node?_index] at hn
    rw [Index.resolveFrom, node?_index, node?_untagged, hn]
    simp [hfresh, hdest]
  | case3 fresh id n hn hfresh hdec next hnext ih =>
    rw [node?_index] at hn
    rw [next?_index] at hnext
    rw [Index.resolveFrom, node?_index, node?_untagged, hn]
    simp [hfresh, hdec, hnext, ih]
  | case4 fresh id n hn hfresh hdec hnext =>
    rw [node?_index] at hn
    rw [next?_index] at hnext
    rw [Index.resolveFrom, node?_index, node?_untagged, hn]
    simp [hfresh, hdec, hnext]
  | case5 fresh id n hn hfresh =>
    rw [node?_index] at hn
    rw [Index.resolveFrom, node?_index, node?_untagged, hn]
    simp [hfresh]

@[simp] theorem resolve_untagged : d.untagged.index.resolve o id = d.index.resolve o id := by
  rw [Index.resolve, Index.resolve, diagram_index, diagram_index, ids_untagged,
    resolveFrom_untagged]

@[simp] theorem gatherOption_untagged (e : MenuEntry) (extension : String) (position : Nat) :
    e.gatherOption d.untagged.index o id extension position =
      e.gatherOption d.index o id extension position := by
  simp only [MenuEntry.gatherOption, outgoing_index, outgoing_untagged, resolve_untagged]

end Diagram
end Switchboard
