import Mathlib.Data.List.Nodup
import Switchboard.Diagram.Payload

/-!
# Switchboard.Proofs.Diagram.UniqueIds

Which diagrams and which payloads are accepted: those whose node ids are all different. Of the ids
that are not, the one is reported that is the first to occur again. A payload that is accepted gives
a diagram that holds all of its nodes and edges, each in its place.
-/

namespace Switchboard

/-- Reading the ids in order, `id` is the first one that has been there before. -/
def FirstRepeated (ids : List String) (id : String) : Prop :=
  ∃ before after, ids = before ++ id :: after ∧ id ∈ before ∧ before.Nodup

/-- The ids in `seen` are those of `before`, which all differ. -/
theorem firstRepeated?_eq_some_iff {before seen ids : List String} {id : String}
    (hseen : ∀ t, t ∈ seen ↔ t ∈ before) (hbefore : before.Nodup) :
    firstRepeated? seen ids = some id ↔
      ∃ between after, ids = between ++ id :: after ∧ id ∈ before ++ between ∧
        (before ++ between).Nodup := by
  induction ids generalizing before seen with
  | nil => simp [firstRepeated?]
  | cons t ids ih =>
    rw [firstRepeated?]
    by_cases ht : t ∈ seen
    · have ht' : t ∈ before := (hseen t).mp ht
      rw [if_pos ht]
      constructor
      · rintro ⟨⟩
        exact ⟨[], ids, rfl, by simpa using ht', by simpa using hbefore⟩
      · rintro ⟨between, after, hsplit, hmem, hnodup⟩
        cases between with
        | nil =>
          cases hsplit
          rfl
        | cons u between =>
          -- The repeated id would stand among those that differ.
          cases hsplit
          exact absurd (List.mem_cons_self) (List.disjoint_of_nodup_append hnodup ht')
    · have ht' : t ∉ before := fun hmem => ht ((hseen t).mpr hmem)
      have hseen' : ∀ u, u ∈ t :: seen ↔ u ∈ before ++ [t] := by
        intro u
        rw [List.mem_cons, List.mem_append, List.mem_singleton, hseen u, or_comm]
      have hbefore' : (before ++ [t]).Nodup :=
        hbefore.append (List.nodup_singleton t) (List.disjoint_singleton.mpr ht')
      rw [if_neg ht, ih hseen' hbefore']
      constructor
      · rintro ⟨between, after, rfl, hmem, hnodup⟩
        rw [List.append_assoc] at hmem hnodup
        exact ⟨t :: between, after, rfl, hmem, hnodup⟩
      · rintro ⟨between, after, hsplit, hmem, hnodup⟩
        cases between with
        | nil =>
          cases hsplit
          rw [List.append_nil] at hmem
          exact absurd hmem ht'
        | cons u between =>
          cases hsplit
          refine ⟨between, after, rfl, ?_, ?_⟩
          · rwa [List.append_assoc]
          · rwa [List.append_assoc]

theorem firstRepeated?_nil_eq_some_iff {ids : List String} {id : String} :
    firstRepeated? [] ids = some id ↔ FirstRepeated ids id :=
  firstRepeated?_eq_some_iff (fun _ => Iff.rfl) List.nodup_nil

theorem firstRepeated?_eq_none_iff {seen ids : List String} :
    firstRepeated? seen ids = none ↔ ids.Nodup ∧ ∀ id ∈ ids, id ∉ seen := by
  induction ids generalizing seen with
  | nil => simp [firstRepeated?]
  | cons t ids ih =>
    rw [firstRepeated?]
    by_cases ht : t ∈ seen
    · simp [ht]
    · rw [if_neg ht, ih, List.nodup_cons, List.forall_mem_cons]
      constructor
      · rintro ⟨hnodup, hnew⟩
        refine ⟨⟨fun hmem => hnew t hmem List.mem_cons_self, hnodup⟩, ht, fun u hu hseen => ?_⟩
        exact hnew u hu (List.mem_cons_of_mem t hseen)
      · rintro ⟨⟨hmem, hnodup⟩, -, hnew⟩
        refine ⟨hnodup, fun u hu hseen => ?_⟩
        obtain rfl | hseen := List.mem_cons.mp hseen
        · exact hmem hu
        · exact hnew u hu hseen

namespace Diagram

variable {d d' : Diagram}

theorem checkIds_eq_ok_iff : d.checkIds = .ok d' ↔ d.ids.Nodup ∧ d' = d := by
  have hnone : firstRepeated? [] d.ids = none ↔ d.ids.Nodup := by
    simp [firstRepeated?_eq_none_iff]
  rw [checkIds]
  cases hrepeated : firstRepeated? [] d.ids with
  | none => simp [hnone.mp hrepeated, eq_comm]
  | some id =>
    have hnodup : ¬ d.ids.Nodup := fun h => by simp [hnone.mpr h] at hrepeated
    simp [hnodup]

theorem checkIds_eq_error_iff {e : DiagramError} :
    d.checkIds = .error e ↔ ∃ id, e = .duplicateId id ∧ FirstRepeated d.ids id := by
  simp only [← firstRepeated?_nil_eq_some_iff]
  rw [checkIds]
  cases firstRepeated? [] d.ids with
  | none => simp
  | some id => simp [eq_comm]

theorem exists_checkIds_eq_error_iff : (∃ e, d.checkIds = .error e) ↔ ¬ d.ids.Nodup := by
  constructor
  · rintro ⟨e, he⟩ hnodup
    have hok := checkIds_eq_ok_iff.mpr ⟨hnodup, rfl⟩
    simp [he] at hok
  · intro hnodup
    cases hcheck : d.checkIds with
    | error e => exact ⟨e, rfl⟩
    | ok d' => exact absurd (checkIds_eq_ok_iff.mp hcheck).1 hnodup

end Diagram

/-! ## What a payload keeps -/

/-- The tag and the properties in a node's `data` go before those beside it, except that an empty tag
in `data` does not count. -/
structure PayloadNode.KeptAs (n : PayloadNode) (n' : Node) : Prop where
  id : n'.id = n.id
  position : n'.position = n.position
  ownTag : ∀ data t, n.data = some data → data.tag = some t → t ≠ "" → n'.tag = t
  outerTag : (∀ data t, n.data = some data → data.tag = some t → t = "") →
    n'.tag = n.tag.getD "unknown"
  ownStep : ∀ data bag, n.data = some data → data.properties = some bag →
    n'.step = .ofBag (.ofTag n'.tag) bag
  outerStep : (∀ data, n.data = some data → data.properties = none) →
    n'.step = .ofBag (.ofTag n'.tag) (n.properties.getD [])

/-- The edge at place `i`. Only an edge without an id is given one, and only an empty label is
dropped. -/
structure PayloadEdge.KeptAs (i : Nat) (e : PayloadEdge) (e' : Edge) : Prop where
  source : e'.source = e.source
  target : e'.target = e.target
  ownId : ∀ id, e.id = some id → e'.id = id
  madeId : e.id = none → e'.id = "edge-" ++ i.repr
  label : ∀ l, e'.label = some l ↔
    l ≠ "" ∧ (e.data = some (some l) ∨ (∀ inner, e.data ≠ some (some inner)) ∧ e.label = some l)

/-- Node by node and edge by edge, the diagram holds what the payload does, and nothing else. -/
structure Payload.KeptIn (p : Payload) (d : Diagram) : Prop where
  nodes : List.Forall₂ PayloadNode.KeptAs p.nodes d.nodes
  edges : p.edges.length = d.edges.length
  edge : ∀ (i : Nat) (e : PayloadEdge) (e' : Edge), p.edges[i]? = some e → d.edges[i]? = some e' →
    e.KeptAs i e'

theorem PayloadNode.keptAs_toNode (n : PayloadNode) : n.KeptAs n.toNode where
  id := rfl
  position := rfl
  ownTag data t hdata htag hne := by
    have hinner : n.data.bind (·.tag) = some t := by rw [hdata, Option.bind_some, htag]
    simp [toNode, Node.ofBag, effectiveTag, hinner, hne]
  outerTag hempty := by
    rw [toNode, Node.ofBag, effectiveTag]
    cases hinner : n.data.bind (·.tag) with
    | none => rfl
    | some t =>
      obtain ⟨data, hdata, htag⟩ := Option.bind_eq_some_iff.mp hinner
      simp [hempty data t hdata htag]
  ownStep data bag hdata hbag := by
    simp [toNode, Node.ofBag, effectiveBag, hdata, hbag]
  outerStep hnone := by
    have hinner : n.data.bind (·.properties) = none := Option.bind_eq_none_iff.mpr hnone
    simp [toNode, Node.ofBag, effectiveBag, hinner]

theorem PayloadEdge.keptAs_toEdge (i : Nat) (e : PayloadEdge) : e.KeptAs i (e.toEdge i) where
  source := rfl
  target := rfl
  ownId id hid := by simp [toEdge, hid]
  madeId hid := by
    rw [toEdge, hid]
    rfl
  label l := by
    rw [toEdge, effectiveLabel]
    simp only [Option.filter_eq_some_iff, Option.or_eq_some_iff, Bool.not_eq_true',
      String.isEmpty_eq_false_iff]
    obtain _ | _ | inner := e.data
    · simp [and_comm]
    · simp [and_comm]
    · simp [and_comm]

namespace Payload

variable (p : Payload)

theorem keptIn_toDiagram : p.KeptIn p.toDiagram where
  nodes := by
    rw [toDiagram, List.forall₂_map_right_iff, List.forall₂_same]
    exact fun n _ => n.keptAs_toNode
  edges := by simp [toDiagram]
  edge i e e' he he' := by
    simp only [toDiagram, List.getElem?_mapIdx, he, Option.map_some, Option.some.injEq] at he'
    subst he'
    exact e.keptAs_toEdge i

theorem ids_toDiagram : p.toDiagram.ids = p.nodes.map (·.id) := by
  simp [toDiagram, Diagram.ids, PayloadNode.toNode, Node.ofBag]

end Payload

/-- What has unique ids is accepted as it is, and nothing else is: neither a diagram nor a payload.
The id that is reported is the first one to occur again. -/
theorem unique_ids_accepted :
    (∀ d : Diagram,
      ((∃ e, d.checkIds = .error e) ↔ ¬ d.ids.Nodup) ∧
      (∀ e, d.checkIds = .error e ↔ ∃ id, e = .duplicateId id ∧ FirstRepeated d.ids id) ∧
      ∀ d', d.checkIds = .ok d' ↔ d.ids.Nodup ∧ d' = d) ∧
    ∀ p : Payload,
      ((∃ e, p.toDiagram.checkIds = .error e) ↔ ¬ (p.nodes.map (·.id)).Nodup) ∧
      (∀ e, p.toDiagram.checkIds = .error e ↔
        ∃ id, e = .duplicateId id ∧ FirstRepeated (p.nodes.map (·.id)) id) ∧
      ∀ d, p.toDiagram.checkIds = .ok d → p.KeptIn d ∧ d.checkIds = .ok d := by
  refine ⟨fun d => ⟨Diagram.exists_checkIds_eq_error_iff, fun _ => Diagram.checkIds_eq_error_iff,
    fun _ => Diagram.checkIds_eq_ok_iff⟩, fun p => ?_⟩
  rw [← p.ids_toDiagram]
  refine ⟨Diagram.exists_checkIds_eq_error_iff, fun _ => Diagram.checkIds_eq_error_iff, ?_⟩
  intro d hd
  obtain ⟨-, rfl⟩ := Diagram.checkIds_eq_ok_iff.mp hd
  exact ⟨p.keptIn_toDiagram, hd⟩

/-- Two rooms, drawn with two edges between them of which one has an id. The canvas draws the first
one as a box, and leaves the tag of the second one empty in its `data`. -/
def corridor (first second : String) : Payload where
  nodes := [
    { id := first
      tag := some "box"
      position := some ⟨.ofInt 40, .ofInt (-8)⟩
      data := some ⟨some "gather-input", some [("timeout", .nat 7)]⟩
      properties := some [("timeout", .nat 9)] },
    { id := second
      tag := some "hang-up"
      position := none
      data := some ⟨some "", none⟩
      properties := some [("reason", .string "Asleep")] }]
  edges := [⟨none, first, second, some "", none⟩, ⟨some "back", second, first, some "1", none⟩]

theorem corridor_accepted :
    ((corridor "hall" "attic").KeptIn (corridor "hall" "attic").toDiagram ∧
      ∃ hall attic, (corridor "hall" "attic").toDiagram.nodes = [hall, attic] ∧
        hall.position = some ⟨.ofInt 40, .ofInt (-8)⟩ ∧ hall.tag = "gather-input" ∧
        hall.step = .gather (.ofBag [("timeout", .nat 7)]) ∧
        attic.tag = "hang-up" ∧ attic.step = .hangUp "Asleep") ∧
    (corridor "hall" "hall").toDiagram.checkIds = .error (.duplicateId "hall") := by
  obtain ⟨-, -, haccepted⟩ := unique_ids_accepted.2 (corridor "hall" "attic")
  obtain ⟨-, hreported, -⟩ := unique_ids_accepted.2 (corridor "hall" "hall")
  have hkept := (haccepted _ (by rfl)).1
  constructor
  · obtain _ | ⟨hhall, _ | ⟨hattic, ⟨⟩⟩⟩ := hkept.nodes
    have hhallTag := hhall.ownTag _ _ rfl rfl (by decide)
    have hatticTag := hattic.outerTag (by rintro _ _ ⟨⟩ ⟨⟩; rfl)
    have hhallStep := hhall.ownStep _ _ rfl rfl
    have hatticStep := hattic.outerStep (by rintro _ ⟨⟩; rfl)
    rw [hhallTag] at hhallStep
    rw [hatticTag] at hatticStep
    exact ⟨hkept, _, _, rfl, hhall.position, hhallTag, hhallStep, hatticTag, hatticStep⟩
  · rw [hreported]
    exact ⟨"hall", rfl, ["hall"], [], rfl, List.mem_cons_self, List.nodup_singleton "hall"⟩

end Switchboard
