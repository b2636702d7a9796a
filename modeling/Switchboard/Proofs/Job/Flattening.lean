import Mathlib.Data.Finset.Card
import Switchboard.Proofs.Diagram.Alike
import Switchboard.Proofs.Dialplan.Reading
import Switchboard.Proofs.Job.Selection

/-!
# Switchboard.Proofs.Job.Flattening

A dialplan runs the nodes of its diagram one after another, wherever their edges lead. Between what
it begins and ends with there is one line for each id, that of the first node with the id, in the
order in which the ids first occur.

* `Diagram.firsts_eq_filterMap`: the first nodes of the ids, by induction on the nodes, so that
  `Diagram.values_states` has the states of a flow.
* `Job.dialplan_flattened`: the lines that the document of a compilation is read as; diagrams with
  the same nodes give the same document.
-/

namespace Switchboard

/-- Of the nodes of each id only the first, in the order in which the ids first occur. -/
def Node.firsts : List Node → List Node
  | [] => []
  | n :: ns => n :: (firsts ns).filter (·.id ≠ n.id)

namespace Diagram

theorem firsts_eq_filterMap (ns : List Node) :
    Node.firsts ns = (ns.map (·.id)).eraseDups.filterMap fun id => ns.find? (·.id == id) := by
  induction ns with
  | nil => rfl
  | cons n ns ih =>
    have hhead : (n :: ns).find? (·.id == n.id) = some n :=
      List.find?_cons_of_pos (beq_self_eq_true _)
    -- A node of the rest has its id, so that it is kept just where its id is.
    have hrest : ∀ id, (ns.find? (·.id == id)).filter (fun m => decide (m.id ≠ n.id)) =
        if !id == n.id then (n :: ns).find? (·.id == id) else none := by
      intro id
      have hfound : ∀ m, ns.find? (·.id == id) = some m → m.id = id := fun m hm => by
        simpa using List.find?_some hm
      by_cases hid : id = n.id
      · subst hid
        cases hf : ns.find? (·.id == n.id) <;> simp_all
      · have hcons : (n :: ns).find? (·.id == id) = ns.find? (·.id == id) :=
          List.find?_cons_of_neg (by simpa using Ne.symm hid)
        rw [hcons]
        cases hf : ns.find? (·.id == id) <;> simp_all
    rw [List.map_cons, List.eraseDups_cons, eraseDups_filter,
      List.filterMap_cons_some (f := fun id => (n :: ns).find? (·.id == id)) hhead,
      List.filterMap_filter, Node.firsts, ih, List.filter_filterMap]
    simp only [hrest]

theorem map_id_firsts (ns : List Node) :
    (Node.firsts ns).map (·.id) = (ns.map (·.id)).eraseDups := by
  induction ns with
  | nil => rfl
  | cons n ns ih =>
    rw [Node.firsts, List.map_cons, List.map_cons, List.eraseDups_cons, eraseDups_filter, ← ih,
      List.filter_map]
    congr 3
    funext m
    simp [beq_eq_decide]

theorem length_firsts (ns : List Node) :
    (Node.firsts ns).length = (ns.map (·.id)).toFinset.card := by
  have hmem : (ns.map (·.id)).toFinset = ((Node.firsts ns).map (·.id)).toFinset := by
    ext id
    rw [map_id_firsts, List.mem_toFinset, List.mem_toFinset, List.mem_eraseDups]
  have hnodup : ((Node.firsts ns).map (·.id)).Nodup := by
    rw [map_id_firsts]
    exact OrderedMap.nodup_eraseDups _
  rw [hmem, List.toFinset_card_of_nodup hnodup, List.length_map]

/-- The first nodes that are alike up to their places are those of nodes that are. -/
theorem map_unplaced_firsts (ns : List Node) :
    (Node.firsts ns).map Node.unplaced = Node.firsts (ns.map Node.unplaced) := by
  induction ns with
  | nil => rfl
  | cons n ns ih =>
    rw [List.map_cons, Node.firsts, Node.firsts, List.map_cons, ← ih, List.filter_map]
    rfl

variable {α : Type}

theorem values_states (d : Diagram) (action : Node → α) :
    (d.index.states action d.ids).values = (Node.firsts d.nodes).map (d.index.state action) := by
  have htranslates : (d.index.states action d.ids).Translates d action :=
    translates_states action fun _ => Iff.rfl
  rw [OrderedMap.values_eq_filterMap, keys_states action fun _ => id, firsts_eq_filterMap,
    List.map_filterMap]
  exact List.filterMap_congr fun id _ => htranslates id

def lines (d : Diagram) (domain : String) : List Line :=
  [.application "answer" none, .application "sleep" (some "1000")] ++
    (Node.firsts d.nodes).map (fun n => .ofAction domain n.pbxAction) ++
    [.application "hangup" none]

theorem length_lines (d : Diagram) (domain : String) :
    (d.lines domain).length = d.ids.toFinset.card + 3 := by
  simp [lines, length_firsts, ids]

theorem lines_of_unplaced_eq {d d' : Diagram}
    (h : d'.nodes.map Node.unplaced = d.nodes.map Node.unplaced) (domain : String) :
    d'.lines domain = d.lines domain := by
  have hfirsts : ∀ c : Diagram,
      (Node.firsts c.nodes).map (fun n => Line.ofAction domain n.pbxAction) =
        (Node.firsts (c.nodes.map Node.unplaced)).map fun n => .ofAction domain n.pbxAction := by
    intro c
    rw [← map_unplaced_firsts, List.map_map]
    rfl
  rw [lines, lines, hfirsts d, hfirsts d', h]

end Diagram

/-! ## The dialplan of a compilation -/

namespace Job

variable (j : Job) (r : Option Routing)

/-- Of the diagram only the lines of its nodes are in the dialplan. -/
theorem dialplanOf_pbxFlowFrom (start : String) :
    j.dialplanOf (j.pbxFlowFrom r start) = {
      context := (j.options.routing r).context.name
      name := j.name
      number := (j.options.routing r).destination
      uuid := .ofName .oidNamespace (Dialplan.uuidName (j.options.routing r).context.name j.name
        (j.options.routing r).destination)
      lines := j.diagram.lines j.options.pbxDomain } := by
  have hstates : (j.pbxFlowFrom r start).states =
      j.diagram.index.states (·.pbxAction) j.diagram.ids := rfl
  rw [dialplanOf, Dialplan.ofFlow, hstates, Diagram.values_states, List.map_map]
  rfl

/-- The document of a compilation is read as two lines, one for each id of a node, made of the first
node with the id, and one more; a node that connects to nobody leaves a comment. Diagrams with the
same nodes give the same document, whatever their edges. -/
theorem dialplan_flattened :
    (j.diagram.nodes = [] → j.compile .dialplan r = .error .emptyDiagram) ∧
    (j.diagram.nodes ≠ [] → ∃ flow xml contents,
      j.compile .dialplan r = .ok (.dialplan flow xml) ∧
      Dialplan.Contents.read? xml = some contents ∧
      contents.lines =
        [.application "answer" none, .application "sleep" (some "1000")] ++
          (Node.firsts j.diagram.nodes).map (fun n => .ofAction j.options.pbxDomain n.pbxAction) ++
          [.application "hangup" none] ∧
      contents.lines.length = j.diagram.ids.toFinset.card + 3 ∧
      (∀ n ∈ Node.firsts j.diagram.nodes, ∀ f, n.step = .forward f → f.phoneNumber = none →
        .comment "connect without a destination number" ∈ contents.lines) ∧
      ∀ d : Diagram, d.nodes.map Node.unplaced = j.diagram.nodes.map Node.unplaced →
        ∃ flow', compile ⟨d, j.name, j.options⟩ .dialplan r = .ok (.dialplan flow' xml)) := by
  refine ⟨fun h => compile_of_eq_nil h .dialplan, fun h => ?_⟩
  obtain ⟨n, hn⟩ := exists_startsAt h
  have hlines : (j.dialplanOf (j.pbxFlowFrom r n.id)).contents.lines =
      j.diagram.lines j.options.pbxDomain := by
    rw [dialplanOf_pbxFlowFrom, Dialplan.contents]
  refine ⟨_, _, (j.dialplanOf (j.pbxFlowFrom r n.id)).contents, compile_dialplan_of_startsAt hn,
    Dialplan.read?_xml (Dialplan.plain_ofFlow _ _ _), hlines, ?_, ?_, ?_⟩
  · rw [hlines, Diagram.length_lines]
  · intro m hm f hf hnumber
    have hline : Line.ofAction j.options.pbxDomain m.pbxAction =
        .comment "connect without a destination number" := by
      rw [Node.pbxAction, hf, Step.pbxAction, hnumber, Line.ofAction]
    rw [hlines, Diagram.lines, ← hline]
    simp only [List.mem_append, List.mem_map]
    exact .inl (.inr ⟨m, hm, rfl⟩)
  · intro d hd
    have hne : d.nodes ≠ [] := by
      intro hnil
      rw [hnil, List.map_nil] at hd
      exact h (List.map_eq_nil_iff.mp hd.symm)
    obtain ⟨m, hm⟩ := exists_startsAt (j := ⟨d, j.name, j.options⟩) hne
    refine ⟨pbxFlowFrom ⟨d, j.name, j.options⟩ r m.id, ?_⟩
    rw [compile_dialplan_of_startsAt hm, dialplanOf_pbxFlowFrom, dialplanOf_pbxFlowFrom,
      Diagram.lines_of_unplaced_eq hd]

end Job

/-- An id that is used twice, a desk without a number, and edges round in a circle. -/
def nightDesk : Job where
  diagram := {
    nodes := [
      .ofStep "hello" .answer,
      .ofStep "desk" (.forward ⟨none, none, 30⟩),
      .ofStep "hello" (.hangUp "never said"),
      .ofStep "note" (.sms ⟨some "1001", some "missed"⟩)]
    edges := [
      ⟨"e1", "note", "hello", none⟩,
      ⟨"e2", "hello", "desk", none⟩,
      ⟨"e3", "desk", "note", some "Busy"⟩] }
  name := "Night desk"
  options := .default

/-- The document has six lines, and the same ones without any edge. -/
theorem nightDesk_dialplan_flattened :
    ∃ flow flow' xml contents,
      nightDesk.compile .dialplan none = .ok (.dialplan flow xml) ∧
      (Job.mk ⟨nightDesk.diagram.nodes, []⟩ "Night desk" .default).compile .dialplan none =
        .ok (.dialplan flow' xml) ∧
      Dialplan.Contents.read? xml = some contents ∧
      contents.lines = [
        .application "answer" none,
        .application "sleep" (some "1000"),
        .application "speak" (some "flite|kal|Welcome to our IVR system!"),
        .comment "connect without a destination number",
        .application "sms" (some "1001|missed"),
        .application "hangup" none] := by
  obtain ⟨flow, xml, contents, hcompile, hread, hlines, -, -, hsame⟩ :=
    (nightDesk.dialplan_flattened none).2 (by decide)
  obtain ⟨flow', hcompile'⟩ := hsame ⟨nightDesk.diagram.nodes, []⟩ rfl
  exact ⟨flow, flow', xml, contents, hcompile, hcompile', hread, hlines⟩

end Switchboard
