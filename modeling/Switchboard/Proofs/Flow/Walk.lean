import Switchboard.Proofs.Flow.Assembly

/-!
# Switchboard.Proofs.Flow.Walk

A compiled machine goes where the diagram leads. `Diagram.walk` follows a sequence of outcomes
through the two lists of the diagram, with a table of its own for the edges that an outcome may
take; `States.visits?` runs the machine on the same outcomes and fails at an id without a state.

* `Translates.target?_eq_move?`: a single step, at any id.
* `Translates.visits?_eq_walkFrom`: a whole run, by induction on the outcomes. The invariant is that
  the run is at the id of a node.
* `Job.runs_follow_walks`: both flows of a compilation run as the diagram is walked.
-/

namespace Switchboard

/-! ## Walking the diagram -/

/-- Which edges an outcome of a step may take, judged by their labels; `none` if a step of this
kind has no such outcome. -/
def Step.choice? (s : Step) (outcome : String) : Option (Option String → Bool) :=
  match s, outcome with
  | .gather _, "next" => some fun _ => true
  | .gather _, "timeout" => some (· == some "timeout")
  | .forward _, "answered" => some (· == some "Success")
  | .forward _, "no_answer" => some (· == some "No Answer")
  | .forward _, "busy" => some (· == some "Busy")
  | .forward _, "declined" => some (· == some "Decline")
  | .forward _, "failed" => some (· == some "Error")
  | .record _, "recording_complete" => some fun _ => true
  | .sms _, "sent" => some fun _ => true
  | .sms _, "failed" => some (· == some "Failure")
  | .answer, "next" => some fun _ => true
  | .play _, "next" => some fun _ => true
  | .menu _, "next" => some fun _ => true
  | .other _, "next" => some fun _ => true
  | _, _ => none

namespace Diagram

/-- Where an outcome leads from an id. The first node with the id says which edges may be taken, and
the first of them that leaves the id is taken, or none at all if there is no node at its end. -/
def move? (d : Diagram) (id outcome : String) : Option String := do
  let n ← d.nodes.find? (·.id == id)
  let takes ← n.step.choice? outcome
  let e ← d.edges.find? fun e => e.source == id && takes e.label
  if d.nodes.any (·.id == e.target) then some e.target else none

/-- The ids on the walk from `id`. The walk ends at the first outcome that leads nowhere. -/
def walkFrom (d : Diagram) (id : String) : List String → List String
  | [] => [id]
  | outcome :: outcomes =>
    match d.move? id outcome with
    | some next => id :: d.walkFrom next outcomes
    | none => [id]

def walk (d : Diagram) (outcomes : List String) : List String :=
  match d.start? with
  | some n => d.walkFrom n.id outcomes
  | none => []

end Diagram

/-! ## Running the machine -/

namespace States

variable {α : Type}

/-- The ids that a machine visits from `id` on. The run ends at the first outcome that the state
does not resolve; it fails if it comes to an id without a state. -/
def visits? (states : States α) (id : String) : List String → Option (List String)
  | [] => if states.contains id then some [id] else none
  | outcome :: outcomes =>
    match states.get? id with
    | none => none
    | some s =>
      match s.transitions.target? outcome with
      | some next => (states.visits? next outcomes).map (id :: ·)
      | none => some [id]

/-- No run leaves the states: the initial one is there, and so is every target. -/
structure Closed (states : States α) (initial : String) : Prop where
  initial_mem : initial ∈ states.keys
  target_mem : ∀ key s, states.get? key = some s → ∀ t ∈ s.transitions.targets, t ∈ states.keys

/-- The machine runs as the diagram is walked. -/
structure Follows (states : States α) (initial : String) (d : Diagram) : Prop where
  visits?_eq : ∀ outcomes, states.visits? initial outcomes = some (d.walk outcomes)
  closed : states.Closed initial

end States

/-! ## One step -/

def Exit.admits : Exit → Option String → Bool
  | .first => fun _ => true
  | .labelled label => (· == some label)

theorem Step.nodup_exits (s : Step) : (s.exits.map (·.1)).Nodup := by
  cases s <;> simp [exits]

theorem Step.map_admits_lookup_exits (s : Step) (outcome : String) :
    (s.exits.lookup outcome).map Exit.admits = s.choice? outcome := by
  fun_cases choice? s outcome
  case case15 hnone =>
    -- No row of the walk's table is about the outcome.
    cases s <;> simp_all [exits, lookup_cons_eq_ite]
  all_goals rfl

namespace Diagram

variable {d : Diagram}

theorem entries_transitions (d : Diagram) (n : Node) :
    (d.index.transitions n).entries =
      n.step.exits.map fun e => (e.1, d.index.follow n.id e.2) := by
  apply OrderedMap.entries_ofList_of_nodup
  rw [List.map_map]
  exact n.step.nodup_exits

theorem target?_transitions (d : Diagram) (n : Node) (outcome : String) :
    (d.index.transitions n).target? outcome =
      (n.step.exits.lookup outcome).bind (d.index.follow n.id) := by
  rw [Transitions.target?, OrderedMap.get?, entries_transitions, lookup_map_snd]
  cases n.step.exits.lookup outcome <;> rfl

theorem follow_index (d : Diagram) (id : String) (x : Exit) :
    d.index.follow id x =
      (d.edges.find? fun e => e.source == id && x.admits e.label).bind d.targetOf? := by
  cases x with
  | first =>
    rw [Index.follow, next?_index, next?_eq_bind]
    simp [Exit.admits]
  | labelled label =>
    rw [Index.follow, exit?_index, exit?_eq_bind]
    rfl

theorem move?_eq_bind (d : Diagram) (id outcome : String) :
    d.move? id outcome =
      (d.node? id).bind fun n => (n.step.exits.lookup outcome).bind (d.index.follow id) := by
  rw [move?, node?]
  simp only [← Step.map_admits_lookup_exits]
  cases d.nodes.find? (·.id == id) with
  | none => rfl
  | some n =>
    simp only [Option.bind_eq_bind, Option.bind_some]
    cases n.step.exits.lookup outcome with
    | none => rfl
    | some x =>
      simp only [Option.map_some, Option.bind_some, follow_index]
      rfl

theorem mem_ids_of_follow {id target : String} {x : Exit} (h : d.index.follow id x = some target) :
    target ∈ d.ids := by
  rw [follow_index] at h
  obtain ⟨e, -, he⟩ := Option.bind_eq_some_iff.mp h
  exact (targetOf?_eq_some_iff.mp he).2

theorem mem_ids_of_move? {id outcome target : String} (h : d.move? id outcome = some target) :
    target ∈ d.ids := by
  rw [move?_eq_bind] at h
  obtain ⟨n, -, hn⟩ := Option.bind_eq_some_iff.mp h
  obtain ⟨x, -, hx⟩ := Option.bind_eq_some_iff.mp hn
  exact mem_ids_of_follow hx

theorem mem_ids_of_mem_targets {n : Node} {target : String}
    (h : target ∈ (d.index.transitions n).targets) : target ∈ d.ids := by
  rw [Transitions.targets, OrderedMap.values, entries_transitions, List.map_map] at h
  obtain ⟨t, ht, rfl⟩ := List.mem_filterMap.mp h
  obtain ⟨x, -, hx⟩ := List.mem_map.mp ht
  exact mem_ids_of_follow hx

end Diagram

/-! ## Whole runs -/

namespace States

variable {α : Type} {states : States α} {d : Diagram} {action : Node → α}

theorem Translates.target?_of_node? (h : states.Translates d action) {id : String} {n : Node}
    (hn : d.node? id = some n) (outcome : String) :
    (states.get? id).map (·.transitions.target? outcome) =
      some ((n.step.exits.lookup outcome).bind fun x =>
        (d.edges.find? fun e => e.source == n.id && x.admits e.label).bind d.targetOf?) := by
  rw [h.get?_of_node? hn, Option.map_some, Index.state, Diagram.target?_transitions]
  simp only [funext (Diagram.follow_index d n.id)]

theorem Translates.target?_eq_move? (h : states.Translates d action) (id outcome : String) :
    ((states.get? id).bind fun s => s.transitions.target? outcome) = d.move? id outcome := by
  rw [h, Diagram.move?_eq_bind]
  cases hn : d.node? id with
  | none => rfl
  | some n =>
    have hid := Diagram.id_of_node? hn
    subst hid
    exact Diagram.target?_transitions d n outcome

theorem Translates.visits?_eq_walkFrom (h : states.Translates d action) (outcomes : List String) :
    ∀ id, id ∈ d.ids → states.visits? id outcomes = some (d.walkFrom id outcomes) := by
  induction outcomes with
  | nil =>
    intro id hid
    have hc : states.contains id = true := List.contains_iff_mem.mpr (h.mem_keys.mpr hid)
    rw [visits?, if_pos hc, Diagram.walkFrom]
  | cons outcome outcomes ih =>
    intro id hid
    obtain ⟨s, hs⟩ : ∃ s, states.get? id = some s := by
      rw [← Option.isSome_iff_exists, OrderedMap.isSome_get?]
      exact h.mem_keys.mpr hid
    have hstep := h.target?_eq_move? id outcome
    rw [hs, Option.bind_some] at hstep
    simp only [visits?, Diagram.walkFrom, hs, hstep]
    cases hm : d.move? id outcome with
    | none => rfl
    | some next =>
      -- The run goes on from a node, since only targets that have one are resolved.
      simp only [ih next (Diagram.mem_ids_of_move? hm), Option.map_some]

theorem Translates.follows (h : states.Translates d action) {n : Node} (hn : d.StartsAt n) :
    states.Follows n.id d where
  visits?_eq outcomes := by
    rw [h.visits?_eq_walkFrom outcomes n.id hn.id_mem, Diagram.walk,
      Diagram.start?_eq_some_iff.mpr hn]
  closed := {
    initial_mem := h.mem_keys.mpr hn.id_mem
    target_mem := by
      intro key s hs t ht
      rw [h] at hs
      obtain ⟨m, -, rfl⟩ := Option.map_eq_some_iff.mp hs
      exact h.mem_keys.mpr (Diagram.mem_ids_of_mem_targets ht) }

end States

/-- On every sequence of outcomes, both flows of a compilation visit the ids of the walk through the
diagram, and neither ever comes to an id without a state. -/
theorem Job.runs_follow_walks (j : Job) (r : Option Routing) (h : j.diagram.nodes ≠ []) :
    ∃ fc fp, j.cloudFlow = .ok fc ∧ j.pbxFlow r = .ok fp ∧
      fc.states.Follows fc.initialState j.diagram ∧
      fp.states.Follows fp.initialState j.diagram := by
  obtain ⟨n, hn⟩ := exists_startsAt h
  exact ⟨j.cloudFlowFrom n.id, j.pbxFlowFrom r n.id, cloudFlow_eq_ok_iff.mpr ⟨n, hn, rfl⟩,
    pbxFlow_eq_ok_iff.mpr ⟨n, hn, rfl⟩, (translates_cloudFlowFrom hn.id_mem).follows hn,
    (translates_pbxFlowFrom n.id).follows hn⟩

/-- A flow in which an id is used twice, the first edge of `ask` leads nowhere, `desk` has two edges
with one label, and callers can be sent round in circles. -/
def crossroads : Job where
  diagram := {
    nodes := [
      .ofStep "hello" (.play ⟨.speech "Hello", none, "en-US"⟩),
      .ofStep "ask" (.gather ⟨.dtmf, 1, 4, 5, "#", []⟩),
      .ofStep "hello" (.hangUp "never said"),
      .ofStep "desk" (.forward ⟨some "1001", none, 30⟩),
      .ofStep "left" (.play ⟨.silence, none, "en-US"⟩),
      .ofStep "right" (.play ⟨.silence, none, "en-US"⟩)]
    edges := [
      ⟨"e1", "hello", "ask", none⟩,
      ⟨"e2", "ask", "nowhere", none⟩,
      ⟨"e3", "ask", "desk", some "timeout"⟩,
      ⟨"e4", "desk", "hello", some "Busy"⟩,
      ⟨"e5", "desk", "left", some "Busy"⟩,
      ⟨"e6", "left", "right", none⟩,
      ⟨"e7", "right", "left", none⟩] }
  name := "Crossroads"
  options := .default

theorem crossroads_runs_follow_walks :
    crossroads.diagram.nodes ≠ [] ∧
    ∃ fc fp, crossroads.cloudFlow = .ok fc ∧ crossroads.pbxFlow none = .ok fp ∧
      fc.states.Follows fc.initialState crossroads.diagram ∧
      fp.states.Follows fp.initialState crossroads.diagram ∧
      fc.states.visits? fc.initialState ["next", "timeout", "busy", "next", "next", "timeout"] =
        some ["hello", "ask", "desk", "hello", "ask"] := by
  have hne : crossroads.diagram.nodes ≠ [] := by decide
  obtain ⟨fc, fp, hc, hp, hfc, hfp⟩ := crossroads.runs_follow_walks none hne
  refine ⟨hne, fc, fp, hc, hp, hfc, hfp, ?_⟩
  rw [hfc.visits?_eq]
  decide

end Switchboard
