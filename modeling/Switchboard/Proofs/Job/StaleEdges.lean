import Switchboard.Proofs.Job.EdgeOrder

/-!
# Switchboard.Proofs.Job.StaleEdges

Stale edges: those that leave an id without a node, as when a node is deleted and its edges are
not. No state and no option of a menu takes one. But an edge counts as leading to its target
wherever it comes from, so a stale edge can take the start away from a node; and a path may run
through ids without a node, so a stale edge can be on the path from the start to a menu and lend the
menu a greeting. `stale_edges_not_harmless` has a diagram for each.

`Job.compile_withoutStale` says that this is all, and when a stale edge makes no difference.
-/

namespace Switchboard
namespace Diagram

variable {d : Diagram}

/-- The edge leaves an id without a node. -/
def IsStale (d : Diagram) (e : Edge) : Prop := ∀ n ∈ d.nodes, n.id ≠ e.source

instance (d : Diagram) (e : Edge) : Decidable (d.IsStale e) :=
  inferInstanceAs (Decidable (∀ n ∈ d.nodes, n.id ≠ e.source))

def withoutStale (d : Diagram) : Diagram where
  nodes := d.nodes
  edges := d.edges.filter fun e => ¬ d.IsStale e

theorem isStale_iff {e : Edge} : d.IsStale e ↔ e.source ∉ d.ids := by
  simp [IsStale, mem_ids]

/-- Nodes lose no edge, other ids lose every edge. -/
theorem outgoing_withoutStale (d : Diagram) (id : String) :
    d.withoutStale.outgoing id = if id ∈ d.ids then d.outgoing id else [] := by
  rw [outgoing, withoutStale, List.filter_filter]
  split
  · next hid =>
    apply List.filter_congr
    intro e _
    by_cases he : e.source = id
    · subst he
      simp [isStale_iff, hid]
    · simp [he]
  · next hid =>
    rw [List.filter_eq_nil_iff]
    intro e _
    by_cases he : e.source = id
    · subst he
      simp [isStale_iff, hid]
    · simp [he]

theorem alikeAtNodes_withoutStale (d : Diagram) : d.withoutStale.AlikeAtNodes d where
  nodes_alike := Node.forall₂_of_unplaced_eq rfl
  leaving_eq id hid := by
    have hmem : id ∈ d.ids := hid
    rw [leaving, leaving, outgoing_withoutStale, if_pos hmem]

theorem path_withoutStale {start : String}
    (hreach : ∀ e ∈ d.edges, d.IsStale e → ¬ d.withoutStale.Reaches start e.source)
    (goal : String) :
    d.withoutStale.index.path start goal = d.index.path start goal := by
  refine path_index_congr goal (d.alikeAtNodes_withoutStale.hasNode_eq start) ?_
  intro id hid
  rw [successors, successors, outgoing_withoutStale]
  by_cases hmem : id ∈ d.ids
  · rw [if_pos hmem]
  · -- An edge from here would be a stale one in reach.
    have hnone : d.outgoing id = [] := by
      rw [outgoing, List.filter_eq_nil_iff]
      intro e he hsource
      obtain rfl : e.source = id := by simpa using hsource
      exact hreach e he (isStale_iff.mpr hmem) hid
    rw [if_neg hmem, hnone]

end Diagram

/-! ## What stale edges may change -/

/-- Cloud flows with the same state for every id, in one order but for the start, which each has
before the other states. -/
structure CloudFlow.SameButStart (f f' : CloudFlow) : Prop where
  description_eq : f.description = f'.description
  allowConcurrentCalls_eq : f.allowConcurrentCalls = f'.allowConcurrentCalls
  state_eq : ∀ id, f.states.get? id = f'.states.get? id
  order_eq : ∃ order : List String, f.states.keys = f.initialState :: order.erase f.initialState ∧
    f'.states.keys = f'.initialState :: order.erase f'.initialState

/-- Menus that differ in their greetings at most, and only if they come from a gather node. -/
structure Menu.SameButGreetings (m m' : Menu) : Prop where
  rest_eq : m' = { m with greetLong := m'.greetLong, greetShort := m'.greetShort }
  eq_of_origin : (∀ id, m.origin ≠ .gatherNode id) → m' = m

theorem Menu.SameButGreetings.isFound_eq {m m' : Menu} (h : m.SameButGreetings m') :
    m'.isFound = m.isFound := by
  rw [h.rest_eq]
  rfl

/-- Artifacts that differ in the start of a flow or the greetings of a menu at most. -/
inductive Artifact.SameButStart : Artifact → Artifact → Prop where
  | cloud {f f' : CloudFlow} : f.SameButStart f' → SameButStart (.cloud f) (.cloud f')
  | dialplan {f : PbxFlow} {start xml : String} :
      SameButStart (.dialplan f xml) (.dialplan { f with initialState := start } xml)
  | menu {m m' : Menu} {name : String} : m.SameButGreetings m' →
      SameButStart (.menu m (m.rows name)) (.menu m' (m'.rows name))

namespace Job

variable {j : Job} {r : Option Routing}

def withoutStale (j : Job) : Job := { j with diagram := j.diagram.withoutStale }

theorem cloudFlowFrom_withoutStale (j : Job) (start : String) :
    j.withoutStale.cloudFlowFrom start = j.cloudFlowFrom start :=
  cloudFlowFrom_of_alike j.diagram.alikeAtNodes_withoutStale j.name j.options start

theorem pbxFlowFrom_withoutStale (j : Job) (r : Option Routing) (start : String) :
    j.withoutStale.pbxFlowFrom r start = j.pbxFlowFrom r start :=
  pbxFlowFrom_of_alike j.diagram.alikeAtNodes_withoutStale j.name j.options r start

theorem dialplanOf_withoutStale (j : Job) (f : PbxFlow) :
    j.withoutStale.dialplanOf f = j.dialplanOf f := rfl

theorem cloudFlowFrom_sameButStart {start start' : String} (h : start ∈ j.diagram.ids)
    (h' : start' ∈ j.diagram.ids) :
    (j.cloudFlowFrom start).SameButStart (j.cloudFlowFrom start') where
  description_eq := rfl
  allowConcurrentCalls_eq := rfl
  state_eq id := by rw [translates_cloudFlowFrom h, translates_cloudFlowFrom h']
  order_eq := ⟨_, keys_cloudFlowFrom h, keys_cloudFlowFrom h'⟩

theorem menuFor_sameButGreetings (j : Job) (r : Option Routing) :
    (j.menuFor r).SameButGreetings (j.withoutStale.menuFor r) := by
  obtain hm | ⟨id, horigin, hm, -⟩ :=
    extractMenu_of_alike j.diagram.alikeAtNodes_withoutStale j.name j.options
      (j.options.routing r).destination (j.options.routing r).context.name
  · have heq : j.withoutStale.menuFor r = j.menuFor r := hm
    rw [heq]
    exact ⟨rfl, fun _ => rfl⟩
  · have heq : j.withoutStale.menuFor r = { j.menuFor r with
        greetLong := (j.diagram.withoutStale.index.greetings id).1
        greetShort := (j.diagram.withoutStale.index.greetings id).2 } := hm
    have horigin' : (j.withoutStale.menuFor r).origin = .gatherNode id := horigin
    refine ⟨?_, ?_⟩
    · rw [heq]
    · intro hno
      rw [heq] at horigin'
      exact absurd horigin' (hno id)

theorem dialplanArtifact_sameButStart {n n' : Node} (hn : j.diagram.StartsAt n)
    (hn' : j.withoutStale.diagram.StartsAt n') :
    ∃ a a', j.dialplanArtifact r = .ok a ∧ j.withoutStale.dialplanArtifact r = .ok a' ∧
      a.SameButStart a' := by
  refine ⟨_, _, dialplanArtifact_of_startsAt hn, dialplanArtifact_of_startsAt hn', ?_⟩
  rw [pbxFlowFrom_withoutStale, dialplanOf_withoutStale]
  -- A dialplan is made without a look at where its flow starts.
  exact .dialplan

theorem compile_sameButStart (j : Job) (r : Option Routing) (target : Target)
    (h : j.diagram.nodes ≠ []) :
    ∃ a a', j.compile target r = .ok a ∧ j.withoutStale.compile target r = .ok a' ∧
      a.SameButStart a' := by
  obtain ⟨n, hn⟩ := exists_startsAt h
  have h' : j.withoutStale.diagram.nodes ≠ [] := h
  obtain ⟨n', hn'⟩ := exists_startsAt h'
  have hmenu := j.menuFor_sameButGreetings r
  rw [compile_of_ne_nil h, compile_of_ne_nil h']
  cases target with
  | cloud =>
    rw [cloudFlow_eq_ok_iff.mpr ⟨n, hn, rfl⟩, cloudFlow_eq_ok_iff.mpr ⟨n', hn', rfl⟩,
      cloudFlowFrom_withoutStale]
    exact ⟨_, _, rfl, rfl, .cloud (cloudFlowFrom_sameButStart hn.id_mem hn'.id_mem)⟩
  | dialplan => exact dialplanArtifact_sameButStart hn hn'
  | menu => exact ⟨_, _, rfl, rfl, .menu hmenu⟩
  | auto =>
    simp only [hmenu.isFound_eq]
    split
    · exact ⟨_, _, rfl, rfl, .menu hmenu⟩
    · exact dialplanArtifact_sameButStart hn hn'

theorem compile_cloud_withoutStale_eq_iff {n n' : Node} (hn : j.diagram.StartsAt n)
    (hn' : j.withoutStale.diagram.StartsAt n') :
    j.withoutStale.compile .cloud r = j.compile .cloud r ↔ n.id = n'.id := by
  rw [compile_cloud_of_startsAt hn, compile_cloud_of_startsAt hn', cloudFlowFrom_withoutStale]
  constructor
  · intro heq
    have hflow : j.cloudFlowFrom n'.id = j.cloudFlowFrom n.id := by simpa using heq
    exact (congrArg CloudFlow.initialState hflow).symm
  · intro hid
    rw [hid]

theorem compile_dialplan_withoutStale_eq_iff {n n' : Node} (hn : j.diagram.StartsAt n)
    (hn' : j.withoutStale.diagram.StartsAt n') :
    j.withoutStale.compile .dialplan r = j.compile .dialplan r ↔ n.id = n'.id := by
  rw [compile_dialplan_of_startsAt hn, compile_dialplan_of_startsAt hn', pbxFlowFrom_withoutStale,
    dialplanOf_withoutStale]
  constructor
  · intro heq
    injection heq with hartifact
    injection hartifact with hflow
    exact (congrArg PbxFlow.initialState hflow).symm
  · intro hid
    rw [hid]

/-- Stale edges change no more of an artifact than the start of a flow and the greetings of a menu
that comes from a gather node. They change a flow if and only if the start is another one without
them; and they change nothing if it is the same one and does not reach any of them. -/
theorem compile_withoutStale (j : Job) (r : Option Routing) :
    (j.diagram.nodes = [] → ∀ target, j.compile target r = .error .emptyDiagram ∧
      j.withoutStale.compile target r = .error .emptyDiagram) ∧
    (j.diagram.nodes ≠ [] → ∀ target, ∃ a a', j.compile target r = .ok a ∧
      j.withoutStale.compile target r = .ok a' ∧ a.SameButStart a') ∧
    ∀ n n', j.diagram.StartsAt n → j.withoutStale.diagram.StartsAt n' →
      (j.withoutStale.compile .cloud r = j.compile .cloud r ↔ n.id = n'.id) ∧
      (j.withoutStale.compile .dialplan r = j.compile .dialplan r ↔ n.id = n'.id) ∧
      (n.id = n'.id →
        (∀ e ∈ j.diagram.edges, j.diagram.IsStale e →
          ¬ j.withoutStale.diagram.Reaches n.id e.source) →
        ∀ target, j.withoutStale.compile target r = j.compile target r) := by
  refine ⟨?_, fun h target => j.compile_sameButStart r target h, ?_⟩
  · intro h target
    exact ⟨compile_of_eq_nil h target, compile_of_eq_nil (j := j.withoutStale) h target⟩
  · intro n n' hn hn'
    refine ⟨compile_cloud_withoutStale_eq_iff hn hn', compile_dialplan_withoutStale_eq_iff hn hn',
      ?_⟩
    intro hid hreach target
    refine compile_of_alike j.diagram.alikeAtNodes_withoutStale j.name j.options hn' hn
      hid.symm ?_ target r
    intro goal
    rw [← hid]
    exact j.diagram.path_withoutStale hreach goal

end Job

/-- `frontDesk` with an edge that has lost its source. It leads to where another edge leads. -/
def leftOver : Job where
  diagram := { frontDesk with edges := ⟨"e0", "deleted", "ask", some "2"⟩ :: frontDesk.edges }
  name := "Front desk"
  options := .default

theorem leftOver_reaches {id : String} (h : leftOver.withoutStale.diagram.Reaches "hello" id) :
    id ∈ leftOver.diagram.ids := by
  have htargets : ∀ e ∈ leftOver.withoutStale.diagram.edges, e.target ∈ leftOver.diagram.ids := by
    decide
  obtain rfl | ⟨before, -, hlast⟩ := h.cases_last
  · decide
  · obtain ⟨e, he, -, rfl⟩ := Diagram.mem_successors.mp hlast
    exact htargets e he

theorem leftOver_compile_withoutStale :
    (∃ e ∈ leftOver.diagram.edges, leftOver.diagram.IsStale e) ∧
    (∀ target r, leftOver.withoutStale.compile target r = leftOver.compile target r) := by
  refine ⟨⟨_, List.mem_cons_self, by decide⟩, ?_⟩
  intro target r
  have hn : leftOver.diagram.StartsAt (.ofStep "hello" .answer) :=
    Diagram.start?_eq_some_iff.mp rfl
  have hn' : leftOver.withoutStale.diagram.StartsAt (.ofStep "hello" .answer) :=
    Diagram.start?_eq_some_iff.mp rfl
  refine ((leftOver.compile_withoutStale r).2.2 _ _ hn hn').2.2 rfl ?_ target
  intro e _ hstale hreach
  exact Diagram.isStale_iff.mp hstale (leftOver_reaches hreach)

/-! ## Stale edges that are not harmless -/

/-- The edge `e1` has lost its source, and counts as leading to `hello` all the same. -/
def strayEntry : Job where
  diagram := {
    nodes := [.ofStep "hello" .answer, .ofStep "bye" (.hangUp "Call completed")]
    edges := [⟨"e1", "deleted", "hello", none⟩] }
  name := "Stray entry"
  options := .default

/-- The node `deleted` between `hello` and `ask` is gone, its edges are not. -/
def detour : Job where
  diagram := {
    nodes := [
      .ofStep "hello" .answer,
      .ofStep "ask" (.gather ⟨.dtmf, 1, 1, 5, "#", [.ofBag [("key", .string "1")]]⟩)]
    edges := [⟨"e1", "hello", "deleted", none⟩, ⟨"e2", "deleted", "ask", none⟩] }
  name := "Detour"
  options := .default

theorem detour_path : detour.diagram.index.path "hello" "ask" = ["hello", "deleted", "ask"] := by
  have hnext : detour.diagram.index.successors = detour.diagram.successors :=
    funext detour.diagram.successors_index
  have hhello : detour.diagram.successors "hello" = ["deleted"] := by decide
  have hdeleted : detour.diagram.successors "deleted" = ["ask"] := by decide
  rw [Index.path, Diagram.hasNode_index, if_pos (by decide), hnext, hhello,
    Diagram.searchPath_enter (by decide) (by decide), hdeleted,
    Diagram.searchPath_enter (by decide) (by decide), Diagram.searchPath_goal]
  rfl

theorem detour_withoutStale_path :
    detour.withoutStale.diagram.index.path "hello" "ask" = [] := by
  have hnext : detour.withoutStale.diagram.index.successors =
      detour.withoutStale.diagram.successors := funext detour.withoutStale.diagram.successors_index
  have hhello : detour.withoutStale.diagram.successors "hello" = ["deleted"] := by decide
  have hdeleted : detour.withoutStale.diagram.successors "deleted" = [] := by decide
  rw [Index.path, Diagram.hasNode_index, if_pos (by decide), hnext, hhello,
    Diagram.searchPath_enter (by decide) (by decide), hdeleted,
    Diagram.searchPath_back (by decide), Diagram.searchPath_back (by decide),
    Diagram.searchPath_nil]

/-- Without its stale edges, the one flow begins elsewhere and the other has lost its greeting. -/
theorem stale_edges_not_harmless :
    (strayEntry.withoutStale.compile .cloud none ≠ strayEntry.compile .cloud none ∧
      ∃ f f', strayEntry.compile .cloud none = .ok (.cloud f) ∧
        strayEntry.withoutStale.compile .cloud none = .ok (.cloud f') ∧
        f.initialState = "bye" ∧ f'.initialState = "hello") ∧
    (detour.withoutStale.compile .menu none ≠ detour.compile .menu none ∧
      ∃ m m', detour.compile .menu none = .ok (.menu m (m.rows "Detour")) ∧
        detour.withoutStale.compile .menu none = .ok (.menu m' (m'.rows "Detour")) ∧
        m.greetLong = "Welcome to our IVR system!" ∧ m'.greetLong = "Welcome!") := by
  constructor
  · have hbye : strayEntry.diagram.StartsAt (.ofStep "bye" (.hangUp "Call completed")) :=
      Diagram.start?_eq_some_iff.mp rfl
    have hhello : strayEntry.withoutStale.diagram.StartsAt (.ofStep "hello" .answer) :=
      Diagram.start?_eq_some_iff.mp rfl
    refine ⟨?_, _, _, Job.compile_cloud_of_startsAt hbye, Job.compile_cloud_of_startsAt hhello,
      rfl, rfl⟩
    rw [Ne, Job.compile_cloud_withoutStale_eq_iff hbye hhello]
    decide
  · have hhello : detour.diagram.StartsAt (.ofStep "hello" .answer) :=
      Diagram.start?_eq_some_iff.mp rfl
    have hhello' : detour.withoutStale.diagram.StartsAt (.ofStep "hello" .answer) :=
      Diagram.start?_eq_some_iff.mp rfl
    have hgreet := Diagram.greetings_index_of_startsAt hhello "ask"
    have hgreet' := Diagram.greetings_index_of_startsAt hhello' "ask"
    rw [show (Node.ofStep "hello" .answer).id = "hello" from rfl, detour_path] at hgreet
    rw [show (Node.ofStep "hello" .answer).id = "hello" from rfl, detour_withoutStale_path]
      at hgreet'
    have hlong : (detour.menuFor none).greetLong = "Welcome to our IVR system!" :=
      congrArg (·.1) hgreet
    have hlong' : (detour.withoutStale.menuFor none).greetLong = "Welcome!" :=
      congrArg (·.1) hgreet'
    refine ⟨?_, detour.menuFor none, detour.withoutStale.menuFor none, rfl, rfl, hlong, hlong'⟩
    intro heq
    injection heq with hartifact
    injection hartifact with hmenu
    rw [hmenu, hlong] at hlong'
    exact absurd hlong' (by decide)

end Switchboard
