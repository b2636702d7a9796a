import Switchboard.Job
import Switchboard.Proofs.Diagram.Lookup
import Switchboard.Proofs.OrderedMap

/-!
# Switchboard.Proofs.Flow.Assembly

How the nodes of a diagram become the states of a flow. Repeated ids meet two rules on the way: the
index keeps the first node of an id, and the map of the states keeps the last state of an id in the
place of its first. They agree, since all states of one id are made of its first node
(`translates_states`).

* `cloudFlow_eq_ok_iff`, `pbxFlow_eq_ok_iff`: what a compilation gives, and from which start.
* `Job.flows_assembled`: both flows have one state for each id of a node, made of the first node
  with the id, in the order of the nodes but for the start of the cloud flow.
-/

namespace Switchboard

variable {α : Type}

/-- Every id of a node has the state of the first node with that id, and no other id has one. -/
def States.Translates (states : States α) (d : Diagram) (action : Node → α) : Prop :=
  ∀ id, states.get? id = (d.node? id).map (d.index.state action)

namespace Diagram

variable {d : Diagram} {ids : List String}

theorem mem_nodesOf {n : Node} :
    n ∈ d.index.nodesOf ids ↔ ∃ id ∈ ids, d.node? id = some n := by
  simp [Index.nodesOf]

theorem map_id_nodesOf (h : ∀ id ∈ ids, id ∈ d.ids) :
    (d.index.nodesOf ids).map (·.id) = ids := by
  induction ids with
  | nil => rfl
  | cons id ids ih =>
    obtain ⟨n, hn⟩ := exists_node? (h id (by simp))
    have hrest := ih fun i hi => h i (by simp [hi])
    rw [Index.nodesOf] at hrest
    rw [Index.nodesOf, List.filterMap_cons_some (by rw [node?_index]; exact hn), List.map_cons,
      hrest, id_of_node? hn]

theorem map_fst_entries (action : Node → α) (h : ∀ id ∈ ids, id ∈ d.ids) :
    ((d.index.nodesOf ids).map fun n => (n.id, d.index.state action n)).map (·.1) = ids := by
  rw [List.map_map]
  exact map_id_nodesOf h

theorem keys_states (action : Node → α) (h : ∀ id ∈ ids, id ∈ d.ids) :
    (d.index.states action ids).keys = ids.eraseDups := by
  rw [Index.states, OrderedMap.keys_ofList, map_fst_entries action h]

/-- However often an id comes, its state is that of the first node with the id. -/
theorem translates_states (action : Node → α) (h : ∀ id, id ∈ ids ↔ id ∈ d.ids) :
    (d.index.states action ids).Translates d action := by
  intro id
  have hkeys := map_fst_entries action fun i hi => (h i).mp hi
  cases hn : d.node? id with
  | none =>
    apply OrderedMap.get?_ofList_of_not_mem
    rw [hkeys, h]
    exact node?_eq_none_iff.mp hn
  | some n =>
    apply OrderedMap.get?_ofList_of_forall
    · rw [hkeys, h]
      exact mem_ids_of_node? hn
    · intro s hs
      obtain ⟨m, hm, he⟩ := List.mem_map.mp hs
      obtain ⟨i, -, hi⟩ := mem_nodesOf.mp hm
      cases he
      rw [id_of_node? hi, hi] at hn
      cases hn
      rfl

theorem mem_order {start id : String} (h : start ∈ d.ids) :
    id ∈ CloudFlow.order d start ↔ id ∈ d.ids := by
  by_cases he : id = start
  · subst he
    simp [CloudFlow.order, h]
  · simp [CloudFlow.order, he]

theorem eraseDups_order (start : String) :
    (CloudFlow.order d start).eraseDups = start :: d.ids.eraseDups.erase start := by
  rw [CloudFlow.order, List.eraseDups_cons, List.filter_filter,
    (OrderedMap.nodup_eraseDups d.ids).erase_eq_filter, ← eraseDups_filter]
  congr 2
  apply List.filter_congr
  intro id _
  by_cases h : id = start <;> simp [h, bne]

/-- There is always a start, unless there are no nodes at all. -/
theorem startId_index (d : Diagram) :
    d.index.startId =
      match d.start? with
      | some n => .ok n.id
      | none => .error .emptyDiagram := by
  rw [Index.startId, diagram_index, start?_index]
  cases hs : d.start? with
  | none =>
    rw [start?_eq_none_iff] at hs
    simp [isEmpty, hs]
  | some n =>
    have hd : d.isEmpty = false := by
      simpa [hs] using d.isSome_start?
    simp [hd]

end Diagram

/-! ## Compiled flows -/

namespace Job

variable {j : Job} {r : Option Routing}

def cloudFlowFrom (j : Job) (start : String) : CloudFlow where
  description := j.options.description
  states := j.diagram.index.states (·.cloudAction j.options) (CloudFlow.order j.diagram start)
  initialState := start
  allowConcurrentCalls := false

def pbxFlowFrom (j : Job) (r : Option Routing) (start : String) : PbxFlow where
  description := j.options.description
  extension := (j.options.routing r).destination
  context := (j.options.routing r).context.name
  states := j.diagram.index.states (·.pbxAction) j.diagram.ids
  initialState := start

theorem cloudFlow_eq (j : Job) :
    j.cloudFlow =
      match j.diagram.start? with
      | some n => .ok (j.cloudFlowFrom n.id)
      | none => .error .emptyDiagram := by
  rw [cloudFlow, CloudFlow.ofIndex, Diagram.startId_index]
  cases j.diagram.start? <;> rfl

theorem pbxFlow_eq (j : Job) (r : Option Routing) :
    j.pbxFlow r =
      match j.diagram.start? with
      | some n => .ok (j.pbxFlowFrom r n.id)
      | none => .error .emptyDiagram := by
  rw [pbxFlow, PbxFlow.ofIndex, Diagram.startId_index]
  cases j.diagram.start? <;> rfl

theorem cloudFlow_eq_ok_iff {f : CloudFlow} :
    j.cloudFlow = .ok f ↔ ∃ n, j.diagram.StartsAt n ∧ f = j.cloudFlowFrom n.id := by
  simp only [cloudFlow_eq, ← Diagram.start?_eq_some_iff]
  cases j.diagram.start? with
  | none => simp
  | some n => simp [eq_comm]

theorem pbxFlow_eq_ok_iff {f : PbxFlow} :
    j.pbxFlow r = .ok f ↔ ∃ n, j.diagram.StartsAt n ∧ f = j.pbxFlowFrom r n.id := by
  simp only [pbxFlow_eq, ← Diagram.start?_eq_some_iff]
  cases j.diagram.start? with
  | none => simp
  | some n => simp [eq_comm]

theorem cloudFlow_eq_error_iff {e : CompileError} :
    j.cloudFlow = .error e ↔ j.diagram.nodes = [] ∧ e = .emptyDiagram := by
  rw [cloudFlow_eq, ← Diagram.start?_eq_none_iff]
  cases j.diagram.start? with
  | none => simp [eq_comm]
  | some n => simp

theorem pbxFlow_eq_error_iff {e : CompileError} :
    j.pbxFlow r = .error e ↔ j.diagram.nodes = [] ∧ e = .emptyDiagram := by
  rw [pbxFlow_eq, ← Diagram.start?_eq_none_iff]
  cases j.diagram.start? with
  | none => simp [eq_comm]
  | some n => simp

theorem exists_cloudFlow_iff (j : Job) (r : Option Routing) :
    (∃ fc, j.cloudFlow = .ok fc) ↔ ∃ fp, j.pbxFlow r = .ok fp := by
  simp only [cloudFlow_eq_ok_iff, pbxFlow_eq_ok_iff]
  constructor
  · rintro ⟨_, n, hn, -⟩
    exact ⟨_, n, hn, rfl⟩
  · rintro ⟨_, n, hn, -⟩
    exact ⟨_, n, hn, rfl⟩

theorem exists_startsAt (h : j.diagram.nodes ≠ []) : ∃ n, j.diagram.StartsAt n :=
  Diagram.exists_startsAt h

theorem translates_cloudFlowFrom {start : String} (h : start ∈ j.diagram.ids) :
    (j.cloudFlowFrom start).states.Translates j.diagram (·.cloudAction j.options) :=
  Diagram.translates_states _ fun _ => Diagram.mem_order h

theorem translates_pbxFlowFrom (start : String) :
    (j.pbxFlowFrom r start).states.Translates j.diagram (·.pbxAction) :=
  Diagram.translates_states _ fun _ => Iff.rfl

theorem keys_cloudFlowFrom {start : String} (h : start ∈ j.diagram.ids) :
    (j.cloudFlowFrom start).states.keys = start :: j.diagram.ids.eraseDups.erase start := by
  rw [cloudFlowFrom, Diagram.keys_states _ fun _ => (Diagram.mem_order h).mp,
    Diagram.eraseDups_order]

theorem keys_pbxFlowFrom (start : String) :
    (j.pbxFlowFrom r start).states.keys = j.diagram.ids.eraseDups :=
  Diagram.keys_states _ fun _ => id

end Job

/-! ## No node is lost, doubled or mistaken for another -/

/-- The states that the nodes of a diagram give, one for each id, in the order of `keys`. -/
structure States.Assembled [Action α] (states : States α) (d : Diagram) (action : Node → α)
    (keys : List String) : Prop where
  keys_eq : states.keys = keys
  nodup_keys : states.keys.Nodup
  mem_keys : ∀ id, id ∈ states.keys ↔ ∃ n ∈ d.nodes, n.id = id
  /-- The state of an id is made of the first node with the id. -/
  first : ∀ before n after, d.nodes = before ++ n :: after → (∀ m ∈ before, m.id ≠ n.id) →
    ∃ s, states.get? n.id = some s ∧ s.name = n.id ∧ s.action = action n ∧
      s.kind = Action.kind (action n) ∧ s.transitions = d.index.transitions n

namespace States

variable {states : States α} {d : Diagram} {action : Node → α}

theorem Translates.mem_keys (h : states.Translates d action) {id : String} :
    id ∈ states.keys ↔ id ∈ d.ids := by
  rw [← OrderedMap.isSome_get?, h, ← Diagram.hasNode_iff, ← Diagram.isSome_node?,
    Option.isSome_map]

theorem Translates.get?_of_node? (h : states.Translates d action) {id : String} {n : Node}
    (hn : d.node? id = some n) : states.get? id = some (d.index.state action n) := by
  rw [h, hn]
  rfl

theorem Translates.assembled [Action α] (h : states.Translates d action) {keys : List String}
    (hkeys : states.keys = keys) : states.Assembled d action keys where
  keys_eq := hkeys
  nodup_keys := states.nodup_keys
  mem_keys id := by rw [h.mem_keys, Diagram.mem_ids]
  first before n after hnodes hfirst := by
    have hn : d.node? n.id = some n :=
      Diagram.node?_eq_some_iff.mpr ⟨rfl, before, after, hnodes, hfirst⟩
    exact ⟨d.index.state action n, h.get?_of_node? hn, rfl, rfl, rfl, rfl⟩

end States

/-- Compilation fails for the diagram without nodes only. Otherwise both flows begin at the start
of the diagram and have one state for each id, made of the first node with the id: the PBX flow in
the order in which the ids first occur, the cloud flow with the start before the others. -/
theorem Job.flows_assembled (j : Job) (r : Option Routing) :
    (j.cloudFlow = .error .emptyDiagram ↔ j.diagram.nodes = []) ∧
    (j.pbxFlow r = .error .emptyDiagram ↔ j.diagram.nodes = []) ∧
    j.cloudFlow ≠ .error .noStart ∧ j.pbxFlow r ≠ .error .noStart ∧
    (j.diagram.nodes ≠ [] → ∃ start fc fp,
      j.diagram.StartsAt start ∧ j.cloudFlow = .ok fc ∧ j.pbxFlow r = .ok fp ∧
      fc.initialState = start.id ∧ fp.initialState = start.id ∧
      fc.initial? ≠ none ∧ fp.initial? ≠ none ∧
      fc.states.Assembled j.diagram (·.cloudAction j.options)
        (start.id :: j.diagram.ids.eraseDups.erase start.id) ∧
      fp.states.Assembled j.diagram (·.pbxAction) j.diagram.ids.eraseDups) := by
  refine ⟨by simp [cloudFlow_eq_error_iff], by simp [pbxFlow_eq_error_iff],
    by simp [cloudFlow_eq_error_iff], by simp [pbxFlow_eq_error_iff], ?_⟩
  intro hne
  obtain ⟨start, hs⟩ := exists_startsAt hne
  have hc := translates_cloudFlowFrom (j := j) hs.id_mem
  have hp := translates_pbxFlowFrom (j := j) (r := r) start.id
  obtain ⟨n, hn⟩ := Diagram.exists_node? hs.id_mem
  refine ⟨start, j.cloudFlowFrom start.id, j.pbxFlowFrom r start.id, hs,
    cloudFlow_eq_ok_iff.mpr ⟨start, hs, rfl⟩, pbxFlow_eq_ok_iff.mpr ⟨start, hs, rfl⟩, rfl, rfl,
    ?_, ?_, hc.assembled (keys_cloudFlowFrom hs.id_mem), hp.assembled (keys_pbxFlowFrom start.id)⟩
  · have hi : (j.cloudFlowFrom start.id).initial? = some _ := hc.get?_of_node? hn
    rw [hi]
    exact Option.some_ne_none _
  · have hi : (j.pbxFlowFrom r start.id).initial? = some _ := hp.get?_of_node? hn
    rw [hi]
    exact Option.some_ne_none _

end Switchboard
