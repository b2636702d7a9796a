import Mathlib.Data.List.Basic
import Switchboard.Proofs.Diagram.Renaming
import Switchboard.Proofs.Flow.Walk

/-!
# Switchboard.Proofs.Flow.Renaming

The states of diagrams that are alike under a renaming: an exit leads to the new name of where it
led before (`follow_eq`), a state has the same action and its exits lead to new names (`state_eq`),
and the states of a list of ids come in the same order (`entries_states`).
-/

namespace Switchboard

/-- The same outcomes, with the new names of where they lead. -/
def Transitions.renamed (r : String → String) (t : Transitions) : Transitions where
  entries := t.entries.map fun e => (e.1, e.2.map r)
  nodup := by
    rw [List.map_map]
    exact t.nodup

@[simp] theorem Transitions.entries_renamed (r : String → String) (t : Transitions) :
    (t.renamed r).entries = t.entries.map fun e => (e.1, e.2.map r) := rfl

def State.renamed {α : Type} (r : String → String) (s : State α) : State α where
  name := r s.name
  transitions := s.transitions.renamed r
  action := s.action

theorem State.renamed_self {α : Type} (s : State α) : s.renamed (fun i => i) = s := by
  have ht : s.transitions.renamed (fun i => i) = s.transitions := by
    apply OrderedMap.ext
    simp
  rw [renamed, ht]

namespace Step.Alike

variable {s s' : Step} (h : s.Alike s')
include h

theorem exits_eq : s'.exits = s.exits := by
  cases h <;> rfl

theorem cloudAction_eq (o : Options) (tag : String) :
    s'.cloudAction o tag = s.cloudAction o tag := by
  cases h <;> rfl

theorem pbxAction_eq (tag : String) : s'.pbxAction tag = s.pbxAction tag := by
  cases h <;> rfl

end Step.Alike

namespace Node.AlikeUnder

variable {r : String → String} {n n' : Node} (h : n.AlikeUnder r n')
include h

theorem cloudAction_eq (o : Options) : n'.cloudAction o = n.cloudAction o := by
  rw [Node.cloudAction, Node.cloudAction, h.tag_eq, h.step_alike.cloudAction_eq]

theorem pbxAction_eq : n'.pbxAction = n.pbxAction := by
  rw [Node.pbxAction, Node.pbxAction, h.tag_eq, h.step_alike.pbxAction_eq]

end Node.AlikeUnder

namespace Diagram

theorem follow_index_eq_outgoing (d : Diagram) (id : String) (x : Exit) :
    d.index.follow id x =
      (((d.outgoing id).find? fun e => x.admits e.label).map (·.target)).bind
        fun t => if d.hasNode t then some t else none := by
  rw [follow_index, Option.bind_map, outgoing, List.find?_filter]
  simp only [Bool.decide_and, Bool.decide_eq_true]
  rfl

namespace AlikeUnder

variable {S : Set String} {r : String → String} {d d' : Diagram} (h : d.AlikeUnder S r d')
variable {id : String}
include h

theorem follow_eq (hid : id ∈ d.ids) (x : Exit) :
    d'.index.follow (r id) x = (d.index.follow id x).map r := by
  rw [follow_index_eq_outgoing, follow_index_eq_outgoing, h.find?_outgoing_eq hid x.admits]
  cases he : (d.outgoing id).find? fun e => x.admits e.label with
  | none => rfl
  | some e =>
    have htarget : e.target ∈ S := h.mem_of_mem_outgoing (List.mem_of_find?_eq_some he)
    simp only [Option.map_some, Option.bind_some, h.hasNode_eq e.target htarget]
    split <;> rfl

theorem transitions_eq {n n' : Node} (hid : n.id ∈ d.ids) (hn : n.AlikeUnder r n') :
    d'.index.transitions n' = (d.index.transitions n).renamed r := by
  apply OrderedMap.ext
  rw [Transitions.entries_renamed, entries_transitions, entries_transitions,
    hn.step_alike.exits_eq, hn.id_eq, List.map_map]
  apply List.map_congr_left
  intro e _
  simp [h.follow_eq hid]

variable {α : Type} {action : Node → α}

theorem state_eq {n n' : Node} (hid : n.id ∈ d.ids) (hn : n.AlikeUnder r n')
    (haction : action n' = action n) :
    d'.index.state action n' = (d.index.state action n).renamed r := by
  rw [Index.state, Index.state, State.renamed, hn.id_eq, haction, h.transitions_eq hid hn]

/-- The entry that an id of the set makes in the states. -/
theorem entry_eq (haction : ∀ n n', n.AlikeUnder r n' → action n' = action n) (hid : id ∈ S) :
    (d'.node? (r id)).map (fun n => (n.id, d'.index.state action n)) =
      (d.node? id).map fun n => (r n.id, (d.index.state action n).renamed r) := by
  cases hn : d.node? id with
  | none =>
    rw [h.node?_eq_none hid hn]
    rfl
  | some n =>
    obtain ⟨n', hn', halike⟩ := h.exists_node? id hid n hn
    rw [hn', Option.map_some, Option.map_some, halike.id_eq,
      h.state_eq (id_mem_of_node? hn) halike (haction n n' halike)]

theorem entries_states (haction : ∀ n n', n.AlikeUnder r n' → action n' = action n)
    (ids : List String) (hids : ∀ id ∈ ids, id ∈ S) :
    (d'.index.states action (ids.map r)).entries =
      (d.index.states action ids).entries.map fun e => (r e.1, e.2.renamed r) := by
  have hentries : (d'.index.nodesOf (ids.map r)).map (fun n => (n.id, d'.index.state action n)) =
      ((d.index.nodesOf ids).map fun n => (n.id, d.index.state action n)).map
        fun e => (r e.1, e.2.renamed r) := by
    simp only [Index.nodesOf, node?_index, List.filterMap_map, List.map_filterMap, Option.map_map]
    apply List.filterMap_congr
    intro id hid
    exact h.entry_eq haction (hids id hid)
  rw [Index.states, Index.states, hentries]
  apply OrderedMap.entries_ofList_map _ h.injOn
  intro e he
  obtain ⟨n, hn, rfl⟩ := List.mem_map.mp he
  obtain ⟨id, hid, hnode⟩ := mem_nodesOf.mp hn
  show n.id ∈ S
  rw [id_of_node? hnode]
  exact hids id hid

end AlikeUnder
end Diagram
end Switchboard
