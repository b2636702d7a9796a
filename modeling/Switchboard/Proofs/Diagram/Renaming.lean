import Mathlib.Data.List.Find
import Switchboard.Proofs.Diagram.Alike

/-!
# Switchboard.Proofs.Diagram.Renaming

Diagrams under other ids. `Diagram.renamed` puts a new name for every id of a node and at every end
of an edge. What one diagram answers about an id, another may answer about the new name of the id:
`Diagram.AlikeUnder` says so of the node of an id and of the edges that leave it. Renamed diagrams
are alike in this way (`alikeUnder_renamed`), and so are those that look alike from their nodes,
under the same names (`AlikeAtNodes.alikeUnder`).
-/

namespace Switchboard

/-! ## Renaming -/

def Node.renamed (r : String → String) (n : Node) : Node := { n with id := r n.id }

/-- An edge between the new names of its ends. Its own id is no id of a node and stays. -/
def Edge.renamed (r : String → String) (e : Edge) : Edge :=
  { e with source := r e.source, target := r e.target }

namespace Diagram

def renamed (r : String → String) (d : Diagram) : Diagram where
  nodes := d.nodes.map (·.renamed r)
  edges := d.edges.map (·.renamed r)

/-- The id is that of a node, or an edge begins or ends there. -/
def Mentions (d : Diagram) (id : String) : Prop :=
  id ∈ d.ids ∨ ∃ e ∈ d.edges, e.source = id ∨ e.target = id

variable {d : Diagram} {id : String}

theorem mentions_of_mem_ids (h : id ∈ d.ids) : d.Mentions id := .inl h

theorem mentions_source {e : Edge} (h : e ∈ d.edges) : d.Mentions e.source :=
  .inr ⟨e, h, .inl rfl⟩

theorem mentions_target {e : Edge} (h : e ∈ d.edges) : d.Mentions e.target :=
  .inr ⟨e, h, .inr rfl⟩

/-- From an id of the diagram one only comes to ids of the diagram. -/
theorem Mentions.of_reaches {source : String} (hs : d.Mentions source)
    (h : d.Reaches source id) : d.Mentions id := by
  obtain rfl | ⟨before, -, hlast⟩ := h.cases_last
  · exact hs
  · obtain ⟨e, he, -, rfl⟩ := mem_successors.mp hlast
    exact mentions_target he

end Diagram

/-! ## Alike under a renaming -/

theorem Node.alikeUnder_renamed (r : String → String) (n : Node) : n.AlikeUnder r (n.renamed r) :=
  ⟨rfl, rfl, .refl _⟩

namespace Diagram

/-- Under the renaming `r` the first nodes of an id are alike, and so are the edges that leave them.
This is said for the ids of a set, which holds all ids of the one diagram and in which `r` gives
different ids different names. -/
structure AlikeUnder (S : Set String) (r : String → String) (d d' : Diagram) : Prop where
  mem_of_mentions : ∀ id, d.Mentions id → id ∈ S
  injOn : Set.InjOn r S
  hasNode_eq : ∀ id ∈ S, d'.hasNode (r id) = d.hasNode id
  exists_node? : ∀ id ∈ S, ∀ n, d.node? id = some n →
    ∃ n', d'.node? (r id) = some n' ∧ n.AlikeUnder r n'
  leaving_eq : ∀ id ∈ d.ids, d'.leaving (r id) = (d.leaving id).map fun e => (r e.1, e.2)

theorem AlikeAtNodes.alikeUnder {d d' : Diagram} (h : d.AlikeAtNodes d') :
    d.AlikeUnder Set.univ (fun i => i) d' where
  mem_of_mentions _ _ := Set.mem_univ _
  injOn := Function.injective_id.injOn
  hasNode_eq i _ := (h.hasNode_eq i).symm
  exists_node? i _ _ hn := exists_of_rel (h.node?_rel i) hn
  leaving_eq i hi := by
    rw [h.leaving_eq i hi]
    exact (List.map_id _).symm

namespace AlikeUnder

variable {S : Set String} {r : String → String} {d d' : Diagram} (h : d.AlikeUnder S r d')
variable {id : String}
include h

theorem mem_of_mem_ids (hid : id ∈ d.ids) : id ∈ S :=
  h.mem_of_mentions id (mentions_of_mem_ids hid)

theorem mem_of_mem_outgoing {e : Edge} (he : e ∈ d.outgoing id) : e.target ∈ S :=
  h.mem_of_mentions _ (mentions_target (List.mem_filter.mp he).1)

theorem mem_ids_iff (hid : id ∈ S) : r id ∈ d'.ids ↔ id ∈ d.ids := by
  rw [← hasNode_iff, ← hasNode_iff, h.hasNode_eq id hid]

theorem node?_eq_none (hid : id ∈ S) (hn : d.node? id = none) : d'.node? (r id) = none := by
  rw [node?_eq_none_iff, h.mem_ids_iff hid]
  exact node?_eq_none_iff.mp hn

/-- The first edge whose label is admitted has the same target, under its new name. -/
theorem find?_outgoing_eq (hid : id ∈ d.ids) (p : Option String → Bool) :
    ((d'.outgoing (r id)).find? fun e => p e.label).map (·.target) =
      ((d.outgoing id).find? fun e => p e.label).map fun e => r e.target := by
  have hl := congrArg (fun l => (l.find? fun e => p e.2).map (·.1)) (h.leaving_eq id hid)
  simpa [leaving, List.find?_map, Option.map_map, Function.comp_def] using hl

end AlikeUnder

/-! ## Renamed diagrams -/

section

variable {d : Diagram} {r : String → String} {id : String}

theorem ids_renamed (d : Diagram) (r : String → String) : (d.renamed r).ids = d.ids.map r := by
  simp [ids, renamed, Node.renamed, Function.comp_def]

variable (hr : Set.InjOn r {id | d.Mentions id})
include hr

theorem isTarget_renamed (hid : d.Mentions id) : (d.renamed r).isTarget (r id) = d.isTarget id := by
  rw [Bool.eq_iff_iff, isTarget_eq_true, isTarget_eq_true]
  constructor
  · rintro ⟨e', he', ht⟩
    obtain ⟨e, he, rfl⟩ := List.mem_map.mp he'
    exact ⟨e, he, hr (mentions_target he) hid ht⟩
  · rintro ⟨e, he, rfl⟩
    exact ⟨e.renamed r, List.mem_map_of_mem he, rfl⟩

theorem node?_renamed (hid : d.Mentions id) :
    (d.renamed r).node? (r id) = (d.node? id).map (·.renamed r) := by
  rw [node?, node?, renamed, List.find?_map]
  congr 1
  apply List.find?_congr
  intro n hn
  have heq : r n.id = r id ↔ n.id = id :=
    hr.eq_iff (mentions_of_mem_ids (mem_ids.mpr ⟨n, hn, rfl⟩)) hid
  rw [Bool.eq_iff_iff]
  simp [Node.renamed, heq]

theorem outgoing_renamed (hid : d.Mentions id) :
    (d.renamed r).outgoing (r id) = (d.outgoing id).map (·.renamed r) := by
  rw [outgoing, outgoing, renamed, List.filter_map]
  congr 1
  apply List.filter_congr
  intro e he
  have heq : r e.source = r id ↔ e.source = id := hr.eq_iff (mentions_source he) hid
  rw [Bool.eq_iff_iff]
  simp [Edge.renamed, heq]

theorem leaving_renamed (hid : d.Mentions id) :
    (d.renamed r).leaving (r id) = (d.leaving id).map fun e => (r e.1, e.2) := by
  rw [leaving, leaving, outgoing_renamed hr hid, List.map_map, List.map_map]
  rfl

theorem successors_renamed (hid : d.Mentions id) :
    (d.renamed r).successors (r id) = (d.successors id).map r := by
  rw [successors, successors, outgoing_renamed hr hid, List.map_map, List.map_map]
  rfl

theorem alikeUnder_renamed : d.AlikeUnder {id | d.Mentions id} r (d.renamed r) where
  mem_of_mentions _ hid := hid
  injOn := hr
  hasNode_eq id hid := by
    rw [← isSome_node?, ← isSome_node?, node?_renamed hr hid, Option.isSome_map]
  exists_node? id hid n hn := by
    rw [node?_renamed hr hid, hn]
    exact ⟨n.renamed r, rfl, n.alikeUnder_renamed r⟩
  leaving_eq _ hid := leaving_renamed hr (mentions_of_mem_ids hid)

theorem start?_renamed : (d.renamed r).start? = d.start?.map (·.renamed r) := by
  have hfind : (d.nodes.map (·.renamed r)).find? (fun n => !(d.renamed r).isTarget n.id) =
      (d.nodes.find? fun n => !d.isTarget n.id).map (·.renamed r) := by
    rw [List.find?_map]
    congr 1
    apply List.find?_congr
    intro n hn
    have htarget := isTarget_renamed hr (mentions_of_mem_ids (mem_ids.mpr ⟨n, hn, rfl⟩))
    simp [Node.renamed, htarget]
  rw [start?, start?, Option.map_or, ← List.head?_map, ← hfind]
  rfl

theorem StartsAt.renamed {n : Node} (h : d.StartsAt n) : (d.renamed r).StartsAt (n.renamed r) := by
  rw [← start?_eq_some_iff, start?_renamed hr, start?_eq_some_iff.mpr h]
  rfl

theorem path_renamed {source goal : String} (hs : d.Mentions source) (hg : d.Mentions goal) :
    (d.renamed r).index.path (r source) (r goal) = (d.index.path source goal).map r := by
  have hreach : ∀ id, d.Reaches source id → d.Mentions id := fun _ h => hs.of_reaches h
  apply path_index_map
  · exact hr.mono (Set.insert_subset hg hreach)
  · exact (alikeUnder_renamed hr).hasNode_eq source hs
  · exact fun id hid => successors_renamed hr (hreach id hid)

end

end Diagram
end Switchboard
