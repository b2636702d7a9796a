import Switchboard.Proofs.Job.Selection
import Switchboard.Proofs.Menu.Renaming

/-!
# Switchboard.Proofs.Job.Renaming

What the nodes of a diagram are called. Ids are only compared with each other: under other ids, as
long as different ones stay different, the states of both flows have the same actions in the same
order and lead to each other as before, the menu has another origin and no other difference, and the
dialplan is the same text (`Job.compile_renamed`).
-/

namespace Switchboard

def Origin.renamed (r : String → String) : Origin → Origin
  | .menuNode id => .menuNode (r id)
  | .gatherNode id => .gatherNode (r id)
  | .none => .none

/-- Of all that a menu holds only its origin is an id. -/
def Menu.renamed (r : String → String) (m : Menu) : Menu :=
  { m with origin := m.origin.renamed r }

/-- The one flow is the other under the renaming `r`: its states come in the same order and do the
same, and what they are called and where they lead are the new names. -/
structure CloudFlow.RenamedTo (r : String → String) (f f' : CloudFlow) : Prop where
  description_eq : f'.description = f.description
  entries_eq : f'.states.entries = f.states.entries.map fun e => (r e.1, e.2.renamed r)
  initialState_eq : f'.initialState = r f.initialState
  allowConcurrentCalls_eq : f'.allowConcurrentCalls = f.allowConcurrentCalls

structure PbxFlow.RenamedTo (r : String → String) (f f' : PbxFlow) : Prop where
  description_eq : f'.description = f.description
  extension_eq : f'.extension = f.extension
  context_eq : f'.context = f.context
  entries_eq : f'.states.entries = f.states.entries.map fun e => (r e.1, e.2.renamed r)
  initialState_eq : f'.initialState = r f.initialState

inductive Artifact.RenamedTo (r : String → String) : Artifact → Artifact → Prop where
  | cloud {f f' : CloudFlow} : f.RenamedTo r f' → RenamedTo r (.cloud f) (.cloud f')
  | dialplan {f f' : PbxFlow} {xml : String} :
      f.RenamedTo r f' → RenamedTo r (.dialplan f xml) (.dialplan f' xml)
  | menu {m : Menu} {rows : MenuRows} : RenamedTo r (.menu m rows) (.menu (m.renamed r) rows)

/-- A dialplan has no room for ids. -/
theorem PbxFlow.RenamedTo.ofFlow_eq {r : String → String} {f f' : PbxFlow} (h : f.RenamedTo r f')
    (name domain : String) : Dialplan.ofFlow f' name domain = Dialplan.ofFlow f name domain := by
  have hlines : f'.states.values.map (fun s => Line.ofAction domain s.action) =
      f.states.values.map fun s => Line.ofAction domain s.action := by
    rw [OrderedMap.values, OrderedMap.values, h.entries_eq, List.map_map, List.map_map,
      List.map_map]
    rfl
  rw [Dialplan.ofFlow, Dialplan.ofFlow, hlines, h.context_eq, h.extension_eq]

theorem Menu.isFound_renamed (r : String → String) (m : Menu) :
    (m.renamed r).isFound = m.isFound := by
  show ((m.origin.renamed r) != .none) = (m.origin != .none)
  cases m.origin <;> rfl

/-! ## The node that a menu is extracted from -/

namespace Diagram

variable (d : Diagram) (r : String → String)

theorem menuNode?_renamed :
    (d.renamed r).menuNode? = d.menuNode?.map fun found => (r found.1, found.2) := by
  rw [menuNode?, menuNode?, renamed, List.findSome?_map, List.map_findSome?]
  congr 1
  funext n
  cases hn : n.step <;> simp [Node.renamed, hn]

theorem gatherNode?_renamed :
    (d.renamed r).gatherNode? = d.gatherNode?.map fun found => (r found.1, found.2) := by
  rw [gatherNode?, gatherNode?, renamed, List.findSome?_map, List.map_findSome?]
  congr 1
  funext n
  cases hn : n.step with
  | gather g => cases hg : g.entries <;> simp [Node.renamed, hn, hg]
  | _ => simp [Node.renamed, hn]

theorem anchor_renamed :
    (d.renamed r).anchor =
      match d.anchor with
      | .menu id s => .menu (r id) s
      | .gather id g => .gather (r id) g
      | .none => .none := by
  rw [anchor, anchor, menuNode?_renamed, gatherNode?_renamed]
  cases d.menuNode? with
  | some found => rfl
  | none => cases d.gatherNode? <;> rfl

end Diagram

/-! ## Compilations -/

namespace Job

def renamed (r : String → String) (j : Job) : Job := { j with diagram := j.diagram.renamed r }

variable {j : Job} {r : String → String} (hr : Set.InjOn r {id | j.diagram.Mentions id})
include hr

theorem order_renamed {start : String} (hs : start ∈ j.diagram.ids) :
    CloudFlow.order (j.diagram.renamed r) (r start) = (CloudFlow.order j.diagram start).map r := by
  rw [CloudFlow.order, CloudFlow.order, Diagram.ids_renamed, List.filter_map, List.map_cons]
  congr 2
  apply List.filter_congr
  intro id hid
  have heq : r id = r start ↔ id = start :=
    hr.eq_iff (Diagram.mentions_of_mem_ids hid) (Diagram.mentions_of_mem_ids hs)
  simp [heq]

theorem cloudFlowFrom_renamed {start : String} (hs : start ∈ j.diagram.ids) :
    (j.cloudFlowFrom start).RenamedTo r ((j.renamed r).cloudFlowFrom (r start)) where
  description_eq := rfl
  entries_eq := by
    show ((j.diagram.renamed r).index.states _
      (CloudFlow.order (j.diagram.renamed r) (r start))).entries = _
    rw [order_renamed hr hs]
    apply (Diagram.alikeUnder_renamed hr).entries_states fun _ _ hn => hn.cloudAction_eq _
    intro id hid
    exact Diagram.mentions_of_mem_ids ((Diagram.mem_order hs).mp hid)
  initialState_eq := rfl
  allowConcurrentCalls_eq := rfl

theorem pbxFlowFrom_renamed (route : Option Routing) (start : String) :
    (j.pbxFlowFrom route start).RenamedTo r ((j.renamed r).pbxFlowFrom route (r start)) where
  description_eq := rfl
  extension_eq := rfl
  context_eq := rfl
  entries_eq := by
    show ((j.diagram.renamed r).index.states _ (j.diagram.renamed r).ids).entries = _
    rw [Diagram.ids_renamed]
    apply (Diagram.alikeUnder_renamed hr).entries_states fun _ _ hn => hn.pbxAction_eq
    intro id hid
    exact Diagram.mentions_of_mem_ids hid
  initialState_eq := rfl

theorem extractMenu_renamed (extension context : String) :
    (j.renamed r).extractMenu extension context =
      (j.extractMenu extension context).renamed r := by
  rw [extractMenu_eq, extractMenu_eq, renamed, Diagram.anchor_renamed]
  cases ha : j.diagram.anchor with
  | menu id s => rfl
  | none => rfl
  | gather id gather =>
    have hid := Diagram.mem_ids_of_anchor_eq_gather ha
    obtain ⟨a, hmem, -⟩ := Diagram.mem_ids.mp hid
    obtain ⟨n, hn⟩ := exists_startsAt (List.ne_nil_of_mem hmem)
    -- The path from the start to the anchor runs along the new names.
    have hpath := Diagram.path_renamed hr (Diagram.mentions_of_mem_ids hn.id_mem)
      (Diagram.mentions_of_mem_ids hid)
    have halike := Diagram.alikeUnder_renamed hr
    have hgreetings := halike.greetings_eq hn (hn.renamed hr) hpath
    show Menu.ofGather (j.diagram.renamed r).index j.options (r id) gather _ _ _ = _
    rw [halike.ofGather_eq j.options hid, hgreetings]
    rfl

theorem menuFor_renamed (route : Option Routing) :
    (j.renamed r).menuFor route = (j.menuFor route).renamed r :=
  extractMenu_renamed hr _ _

theorem dialplanArtifact_renamed {n : Node} (hn : j.diagram.StartsAt n) (route : Option Routing) :
    ∃ a a', j.dialplanArtifact route = .ok a ∧ (j.renamed r).dialplanArtifact route = .ok a' ∧
      a.RenamedTo r a' := by
  have hflow := pbxFlowFrom_renamed hr route n.id
  have hplan : (j.renamed r).dialplanOf ((j.renamed r).pbxFlowFrom route (n.renamed r).id) =
      j.dialplanOf (j.pbxFlowFrom route n.id) := hflow.ofFlow_eq j.name j.options.pbxDomain
  have hn' : (j.renamed r).diagram.StartsAt (n.renamed r) := hn.renamed hr
  refine ⟨_, _, dialplanArtifact_of_startsAt hn, dialplanArtifact_of_startsAt hn', ?_⟩
  rw [hplan]
  exact .dialplan hflow

theorem artifact_renamed {n : Node} (hn : j.diagram.StartsAt n) (target : Target)
    (route : Option Routing) :
    ∃ a a', j.compile target route = .ok a ∧ (j.renamed r).compile target route = .ok a' ∧
      a.RenamedTo r a' := by
  have hn' : (j.renamed r).diagram.StartsAt (n.renamed r) := hn.renamed hr
  have hmenu := menuFor_renamed hr route
  rw [compile_of_ne_nil (List.ne_nil_of_mem hn.mem), compile_of_ne_nil (List.ne_nil_of_mem hn'.mem)]
  cases target with
  | cloud =>
    rw [cloudFlow_eq_ok_iff.mpr ⟨n, hn, rfl⟩, cloudFlow_eq_ok_iff.mpr ⟨_, hn', rfl⟩]
    exact ⟨_, _, rfl, rfl, .cloud (cloudFlowFrom_renamed hr hn.id_mem)⟩
  | dialplan => exact dialplanArtifact_renamed hr hn route
  | menu =>
    rw [hmenu]
    exact ⟨_, _, rfl, rfl, .menu⟩
  | auto =>
    simp only [hmenu, Menu.isFound_renamed]
    split
    · exact ⟨_, _, rfl, rfl, .menu⟩
    · exact dialplanArtifact_renamed hr hn route

end Job

/-- Under other names for its ids, different ones for different ids, a diagram compiles to the same
flows, menu and dialplan under these names. -/
theorem Job.compile_renamed {j : Job} {r : String → String}
    (hr : Set.InjOn r {id | j.diagram.Mentions id}) (route : Option Routing) :
    (∀ extension context, (j.renamed r).extractMenu extension context =
      (j.extractMenu extension context).renamed r) ∧
    (j.diagram.nodes = [] → ∀ target, j.compile target route = .error .emptyDiagram ∧
      (j.renamed r).compile target route = .error .emptyDiagram) ∧
    (j.diagram.nodes ≠ [] →
      (∃ f f', j.cloudFlow = .ok f ∧ (j.renamed r).cloudFlow = .ok f' ∧ f.RenamedTo r f') ∧
      (∃ f f', j.pbxFlow route = .ok f ∧ (j.renamed r).pbxFlow route = .ok f' ∧
        f.RenamedTo r f' ∧ ((j.renamed r).dialplanOf f').xml = (j.dialplanOf f).xml) ∧
      ∀ target, ∃ a a', j.compile target route = .ok a ∧
        (j.renamed r).compile target route = .ok a' ∧ a.RenamedTo r a') := by
  refine ⟨extractMenu_renamed hr, ?_, ?_⟩
  · intro hempty target
    have hempty' : (j.renamed r).diagram.nodes = [] := by
      simp [renamed, Diagram.renamed, hempty]
    exact ⟨compile_of_eq_nil hempty target, compile_of_eq_nil hempty' target⟩
  · intro hne
    obtain ⟨n, hn⟩ := exists_startsAt hne
    have hn' : (j.renamed r).diagram.StartsAt (n.renamed r) := hn.renamed hr
    have hpbx := pbxFlowFrom_renamed hr route n.id
    refine ⟨?_, ?_, fun target => artifact_renamed hr hn target route⟩
    · exact ⟨_, _, cloudFlow_eq_ok_iff.mpr ⟨n, hn, rfl⟩, cloudFlow_eq_ok_iff.mpr ⟨_, hn', rfl⟩,
        cloudFlowFrom_renamed hr hn.id_mem⟩
    · exact ⟨_, _, pbxFlow_eq_ok_iff.mpr ⟨n, hn, rfl⟩, pbxFlow_eq_ok_iff.mpr ⟨_, hn', rfl⟩, hpbx,
        congrArg Dialplan.xml (hpbx.ofFlow_eq j.name j.options.pbxDomain)⟩

/-- A flow with an id used twice, a dangling edge and a way in circles, and with a menu. -/
def annex : Job where
  diagram := {
    nodes := [
      .ofStep "hello" .answer,
      .ofStep "ask" (.gather ⟨.dtmf, 1, 1, 5, "#", [.ofBag [("key", .string "1")]]⟩),
      .ofStep "hello" (.hangUp "never said"),
      .ofStep "desk" (.play ⟨.silence, none, "en-US"⟩)]
    edges := [
      ⟨"e1", "hello", "ask", none⟩,
      ⟨"e2", "ask", "gone", none⟩,
      ⟨"e3", "ask", "desk", some "1"⟩,
      ⟨"e4", "desk", "ask", none⟩] }
  name := "Annex"
  options := .default

/-- Two ids of `annex` change places, and all but three ids of the world get one name. -/
def annexNames (id : String) : String :=
  if id = "hello" then "ask" else if id = "ask" then "hello" else if id = "desk" then id else "?"

theorem annex_names_injOn : Set.InjOn annexNames {id | annex.diagram.Mentions id} := by
  have hmentioned : ∀ id, annex.diagram.Mentions id → id ∈ ["hello", "ask", "desk", "gone"] := by
    have hids : ∀ id ∈ annex.diagram.ids, id ∈ ["hello", "ask", "desk", "gone"] := by decide
    have hedges : ∀ e ∈ annex.diagram.edges, e.source ∈ ["hello", "ask", "desk", "gone"] ∧
        e.target ∈ ["hello", "ask", "desk", "gone"] := by decide
    rintro id (hid | ⟨e, he, rfl | rfl⟩)
    · exact hids id hid
    · exact (hedges e he).1
    · exact (hedges e he).2
  have hnames : ∀ a ∈ ["hello", "ask", "desk", "gone"], ∀ b ∈ ["hello", "ask", "desk", "gone"],
      annexNames a = annexNames b → a = b := by decide
  intro a ha b hb
  exact hnames a (hmentioned a ha) b (hmentioned b hb)

theorem annex_compile_renamed :
    Set.InjOn annexNames {id | annex.diagram.Mentions id} ∧ annex.diagram.nodes ≠ [] ∧
    ((annex.renamed annexNames).extractMenu "2000" "default").origin = .gatherNode "hello" ∧
    ∀ target, ∃ a a', annex.compile target none = .ok a ∧
      (annex.renamed annexNames).compile target none = .ok a' ∧ a.RenamedTo annexNames a' := by
  have hne : annex.diagram.nodes ≠ [] := by decide
  obtain ⟨hmenu, -, hcompile⟩ := Job.compile_renamed annex_names_injOn none
  refine ⟨annex_names_injOn, hne, ?_, (hcompile hne).2.2⟩
  rw [hmenu, Menu.renamed, Job.origin_extractMenu]
  rfl

end Switchboard
