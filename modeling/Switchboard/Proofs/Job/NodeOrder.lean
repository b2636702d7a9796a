import Mathlib.Data.List.Nodup
import Switchboard.Proofs.Job.Selection
import Switchboard.Proofs.Menu.Renaming

/-!
# Switchboard.Proofs.Job.NodeOrder

The order of the nodes. Whatever is asked of an id does not depend on it, as long as no id is used
twice. The order only decides which of several nodes comes first, and that is asked twice: for a
node that no edge leads to, to start at, and for a node to extract a menu from. Where there is no
choice, the nodes may stand in any order (`Job.compile_of_reordered`).
-/

namespace Switchboard
namespace Diagram

/-- The nodes of the one diagram, no two with one id, in another order, and the same edges. -/
structure Reordered (d d' : Diagram) : Prop where
  nodup_ids : d.ids.Nodup
  perm : d.nodes.Perm d'.nodes
  edges_eq : d.edges = d'.edges

def OneEntry (d : Diagram) : Prop := ∃! n, n ∈ d.nodes ∧ ∀ e ∈ d.edges, e.target ≠ n.id

/-- There is exactly one menu node, or there is none and at most one gather node with entries. -/
def OneAnchor (d : Diagram) : Prop :=
  (∃! n, n ∈ d.nodes ∧ n.IsMenu) ∨
    ((∀ n ∈ d.nodes, ¬ n.IsMenu) ∧
      ∀ m ∈ d.nodes, ∀ n ∈ d.nodes, m.OffersEntries → n.OffersEntries → m = n)

variable {d : Diagram}

/-- Where ids are not used twice, it does not matter which node of an id comes first. -/
theorem node?_eq_some_iff_of_nodup (h : d.ids.Nodup) {id : String} {n : Node} :
    d.node? id = some n ↔ n ∈ d.nodes ∧ n.id = id := by
  constructor
  · intro hn
    obtain ⟨hid, before, after, hnodes, -⟩ := node?_eq_some_iff.mp hn
    exact ⟨by simp [hnodes], hid⟩
  · rintro ⟨hmem, rfl⟩
    obtain ⟨m, hm⟩ := exists_node? (mem_ids.mpr ⟨n, hmem, rfl⟩)
    obtain ⟨hid, before, after, hnodes, -⟩ := node?_eq_some_iff.mp hm
    rw [hm, List.inj_on_of_nodup_map h (by simp [hnodes]) hmem hid]

/-- If edges lead to all other nodes, calls begin at the one that is left. -/
theorem startsAt_of_unique {n : Node} (hn : n ∈ d.nodes) (hentry : ∀ e ∈ d.edges, e.target ≠ n.id)
    (hunique : ∀ m ∈ d.nodes, (∀ e ∈ d.edges, e.target ≠ m.id) → m = n) : d.StartsAt n := by
  cases hs : d.start? with
  | none =>
    rw [start?_eq_none_iff.mp hs] at hn
    cases hn
  | some m =>
    have hm := start?_eq_some_iff.mp hs
    cases hm with
    | entry hnodes hno _ =>
      rw [← hunique m (by simp [hnodes]) hno]
      exact start?_eq_some_iff.mp hs
    | fallback _ hall =>
      obtain ⟨e, he, ht⟩ := hall n hn
      exact absurd ht (hentry e he)

theorem menuNode?_of_unique {n : Node} {s : MenuSettings} (hn : n ∈ d.nodes) (hs : n.step = .menu s)
    (hunique : ∀ m ∈ d.nodes, m.IsMenu → m = n) : d.menuNode? = some (n.id, s) := by
  cases hm : d.menuNode? with
  | none => exact absurd hs (menuNode?_eq_none_iff.mp hm n hn s)
  | some found =>
    obtain ⟨id, s'⟩ := found
    obtain ⟨before, m, after, hnodes, rfl, hs', -⟩ := menuNode?_eq_some_iff.mp hm
    obtain rfl := hunique m (by simp [hnodes]) ⟨s', hs'⟩
    rw [hs] at hs'
    cases hs'
    rfl

theorem gatherNode?_of_unique {n : Node} {g : Gather} (hn : n ∈ d.nodes) (hg : n.step = .gather g)
    (hne : g.entries ≠ []) (hunique : ∀ m ∈ d.nodes, m.OffersEntries → m = n) :
    d.gatherNode? = some (n.id, g) := by
  cases hm : d.gatherNode? with
  | none => exact absurd (gatherNode?_eq_none_iff.mp hm n hn g hg) hne
  | some found =>
    obtain ⟨id, g'⟩ := found
    obtain ⟨before, m, after, hnodes, rfl, hg', hne', -⟩ := gatherNode?_eq_some_iff.mp hm
    obtain rfl := hunique m (by simp [hnodes]) ⟨g', hg', hne'⟩
    rw [hg] at hg'
    cases hg'
    rfl

namespace Reordered

variable {d' : Diagram} (h : d.Reordered d')
include h

theorem mem_nodes_iff {n : Node} : n ∈ d'.nodes ↔ n ∈ d.nodes := h.perm.symm.mem_iff

theorem nodes_eq_nil_iff : d'.nodes = [] ↔ d.nodes = [] := by
  rw [← List.length_eq_zero_iff, ← List.length_eq_zero_iff, h.perm.length_eq]

theorem perm_ids : d.ids.Perm d'.ids := h.perm.map _

theorem node?_eq (id : String) : d'.node? id = d.node? id := by
  apply Option.ext
  intro n
  have hnodup' : d'.ids.Nodup := h.perm_ids.nodup_iff.mp h.nodup_ids
  rw [node?_eq_some_iff_of_nodup h.nodup_ids, node?_eq_some_iff_of_nodup hnodup', h.mem_nodes_iff]

theorem outgoing_eq (id : String) : d'.outgoing id = d.outgoing id := by
  rw [outgoing, outgoing, h.edges_eq]

theorem alikeUnder : d.AlikeUnder Set.univ (fun i => i) d' where
  mem_of_mentions _ _ := Set.mem_univ _
  injOn := Function.injective_id.injOn
  hasNode_eq id _ := by rw [← isSome_node?, ← isSome_node?, h.node?_eq id]
  exists_node? id _ n hn := ⟨n, (h.node?_eq id).trans hn, .refl n⟩
  leaving_eq id _ := by
    rw [leaving, leaving, h.outgoing_eq id]
    exact (List.map_id _).symm

theorem state_eq {α : Type} (action : Node → α) (id : String) :
    (d'.node? id).map (d'.index.state action) = (d.node? id).map (d.index.state action) := by
  rw [h.node?_eq id]
  cases hn : d.node? id with
  | none => rw [Option.map_none, Option.map_none]
  | some n =>
    rw [Option.map_some, Option.map_some, h.alikeUnder.state_eq (id_mem_of_node? hn) (.refl n) rfl,
      State.renamed_self]

theorem exists_startsAt_of_oneEntry (hentry : d.OneEntry) : ∃ n, d.StartsAt n ∧ d'.StartsAt n := by
  obtain ⟨n, ⟨hn, hno⟩, hunique⟩ := hentry
  refine ⟨n, startsAt_of_unique hn hno fun m hm hm' => hunique m ⟨hm, hm'⟩, ?_⟩
  apply startsAt_of_unique (h.mem_nodes_iff.mpr hn)
  · rw [← h.edges_eq]
    exact hno
  · intro m hm hm'
    rw [← h.edges_eq] at hm'
    exact hunique m ⟨h.mem_nodes_iff.mp hm, hm'⟩

theorem anchor_eq (hone : d.OneAnchor) : d'.anchor = d.anchor := by
  obtain ⟨n, ⟨hn, s, hs⟩, hunique⟩ | ⟨hno, hunique⟩ := hone
  · have hmenu : d.menuNode? = some (n.id, s) :=
      menuNode?_of_unique hn hs fun m hm hm' => hunique m ⟨hm, hm'⟩
    have hmenu' : d'.menuNode? = some (n.id, s) :=
      menuNode?_of_unique (h.mem_nodes_iff.mpr hn) hs
        fun m hm hm' => hunique m ⟨h.mem_nodes_iff.mp hm, hm'⟩
    rw [anchor, anchor, hmenu, hmenu']
  · have hmenu : d.menuNode? = none := menuNode?_eq_none_iff_isMenu.mpr hno
    have hmenu' : d'.menuNode? = none :=
      menuNode?_eq_none_iff_isMenu.mpr fun m hm => hno m (h.mem_nodes_iff.mp hm)
    have hgather : d'.gatherNode? = d.gatherNode? := by
      cases hg : d.gatherNode? with
      | none =>
        have hnone := gatherNode?_eq_none_iff.mp hg
        exact gatherNode?_eq_none_iff.mpr fun m hm => hnone m (h.mem_nodes_iff.mp hm)
      | some found =>
        obtain ⟨id, g⟩ := found
        obtain ⟨before, n, after, hnodes, rfl, hn, hne, -⟩ := gatherNode?_eq_some_iff.mp hg
        have hmem : n ∈ d.nodes := by simp [hnodes]
        exact gatherNode?_of_unique (h.mem_nodes_iff.mpr hmem) hn hne
          fun m hm hm' => hunique m (h.mem_nodes_iff.mp hm) n hmem hm' ⟨g, hn, hne⟩
    rw [anchor, anchor, hmenu, hmenu', hgather]

theorem path_eq (source goal : String) :
    d'.index.path source goal = d.index.path source goal := by
  apply path_index_congr
  · exact h.alikeUnder.hasNode_eq source (Set.mem_univ _)
  · intro id _
    rw [successors, successors, h.outgoing_eq id]

end Reordered
end Diagram

namespace Job

variable {d d' : Diagram} (h : d.Reordered d') (name : String) (o : Options)
include h

theorem cloudFlow_of_reordered {f : CloudFlow} (hf : cloudFlow ⟨d, name, o⟩ = .ok f) :
    ∃ f', cloudFlow ⟨d', name, o⟩ = .ok f' ∧ (∀ id, f'.states.get? id = f.states.get? id) ∧
      (d.OneEntry → f'.initialState = f.initialState) := by
  obtain ⟨n, hn, rfl⟩ := cloudFlow_eq_ok_iff.mp hf
  have hne : d'.nodes ≠ [] := mt h.nodes_eq_nil_iff.mp (List.ne_nil_of_mem hn.mem)
  obtain ⟨n', hn'⟩ := exists_startsAt (j := ⟨d', name, o⟩) hne
  refine ⟨_, cloudFlow_eq_ok_iff.mpr ⟨n', hn', rfl⟩, ?_, ?_⟩
  · intro id
    rw [translates_cloudFlowFrom hn.id_mem, translates_cloudFlowFrom hn'.id_mem]
    exact h.state_eq _ id
  · intro hentry
    obtain ⟨m, hm, hm'⟩ := h.exists_startsAt_of_oneEntry hentry
    obtain rfl := hn.unique hm
    obtain rfl := hn'.unique hm'
    rfl

theorem pbxFlow_of_reordered (r : Option Routing) {f : PbxFlow}
    (hf : pbxFlow ⟨d, name, o⟩ r = .ok f) :
    ∃ f', pbxFlow ⟨d', name, o⟩ r = .ok f' ∧ (∀ id, f'.states.get? id = f.states.get? id) ∧
      (d.OneEntry → f'.initialState = f.initialState) := by
  obtain ⟨n, hn, rfl⟩ := pbxFlow_eq_ok_iff.mp hf
  have hne : d'.nodes ≠ [] := mt h.nodes_eq_nil_iff.mp (List.ne_nil_of_mem hn.mem)
  obtain ⟨n', hn'⟩ := exists_startsAt (j := ⟨d', name, o⟩) hne
  refine ⟨_, pbxFlow_eq_ok_iff.mpr ⟨n', hn', rfl⟩, ?_, ?_⟩
  · intro id
    rw [translates_pbxFlowFrom, translates_pbxFlowFrom]
    exact h.state_eq _ id
  · intro hentry
    obtain ⟨m, hm, hm'⟩ := h.exists_startsAt_of_oneEntry hentry
    obtain rfl := hn.unique hm
    obtain rfl := hn'.unique hm'
    rfl

theorem extractMenu_of_reordered (hentry : d.OneEntry) (hone : d.OneAnchor)
    (extension context : String) :
    extractMenu ⟨d', name, o⟩ extension context = extractMenu ⟨d, name, o⟩ extension context := by
  rw [extractMenu_eq, extractMenu_eq, h.anchor_eq hone]
  cases ha : d.anchor with
  | menu id s => rfl
  | none => rfl
  | gather id gather =>
    have hid := Diagram.mem_ids_of_anchor_eq_gather ha
    obtain ⟨n, hn, hn'⟩ := h.exists_startsAt_of_oneEntry hentry
    have hpath : d'.index.path n.id id = (d.index.path n.id id).map fun i => i :=
      (h.path_eq n.id id).trans (List.map_id _).symm
    have hgreetings := h.alikeUnder.greetings_eq hn hn' hpath
    have hmenu := h.alikeUnder.ofGather_eq o hid gather name extension context
    rw [hgreetings] at hmenu
    exact hmenu

end Job

/-- With its nodes in another order, a diagram without repeated ids compiles to the same state for
each id. If there is only one node to start at, it also begins at the same state, and if there is
besides only one node to extract a menu from, or none, the menu is the same. -/
theorem Job.compile_of_reordered {d d' : Diagram} (h : d.Reordered d') (name : String)
    (o : Options) (r : Option Routing) :
    (∀ e, cloudFlow ⟨d', name, o⟩ = .error e ↔ cloudFlow ⟨d, name, o⟩ = .error e) ∧
    (∀ e, pbxFlow ⟨d', name, o⟩ r = .error e ↔ pbxFlow ⟨d, name, o⟩ r = .error e) ∧
    (∀ f, cloudFlow ⟨d, name, o⟩ = .ok f → ∃ f', cloudFlow ⟨d', name, o⟩ = .ok f' ∧
      (∀ id, f'.states.get? id = f.states.get? id) ∧
      (d.OneEntry → f'.initialState = f.initialState)) ∧
    (∀ f, pbxFlow ⟨d, name, o⟩ r = .ok f → ∃ f', pbxFlow ⟨d', name, o⟩ r = .ok f' ∧
      (∀ id, f'.states.get? id = f.states.get? id) ∧
      (d.OneEntry → f'.initialState = f.initialState)) ∧
    (d.OneEntry → d.OneAnchor → ∀ extension context,
      extractMenu ⟨d', name, o⟩ extension context =
        extractMenu ⟨d, name, o⟩ extension context) := by
  refine ⟨?_, ?_, fun f => cloudFlow_of_reordered h name o, fun f => pbxFlow_of_reordered h name o r,
    extractMenu_of_reordered h name o⟩
  · intro e
    rw [cloudFlow_eq_error_iff, cloudFlow_eq_error_iff, h.nodes_eq_nil_iff]
  · intro e
    rw [pbxFlow_eq_error_iff, pbxFlow_eq_error_iff, h.nodes_eq_nil_iff]

/-- A greeting, a choice of one digit and a desk that sends callers back when it is busy. -/
def foyer : Diagram where
  nodes := [
    .ofStep "hello" .answer,
    .ofStep "ask" (.gather ⟨.dtmf, 1, 1, 5, "#", [.ofBag [("key", .string "1")]]⟩),
    .ofStep "desk" (.forward ⟨some "1001", none, 30⟩)]
  edges := [
    ⟨"e1", "hello", "ask", none⟩,
    ⟨"e2", "ask", "desk", some "1"⟩,
    ⟨"e3", "desk", "ask", some "Busy"⟩]

def foyerBackwards : Diagram := { foyer with nodes := foyer.nodes.reverse }

theorem foyer_reordered : foyer.Reordered foyerBackwards where
  nodup_ids := by decide
  perm := foyer.nodes.reverse_perm.symm
  edges_eq := rfl

theorem foyer_oneEntry : foyer.OneEntry := by
  refine ⟨.ofStep "hello" .answer, ⟨List.mem_cons_self, by decide⟩, ?_⟩
  rintro n ⟨hn, hno⟩
  simp only [foyer, List.mem_cons, List.not_mem_nil, or_false] at hn
  rcases hn with rfl | rfl | rfl
  · rfl
  · exact absurd rfl (hno ⟨"e1", "hello", "ask", none⟩ (by decide))
  · exact absurd rfl (hno ⟨"e2", "ask", "desk", some "1"⟩ (by decide))

theorem foyer_oneAnchor : foyer.OneAnchor := by
  refine .inr ⟨?_, ?_⟩
  · rintro n hn ⟨s, hs⟩
    simp only [foyer, List.mem_cons, List.not_mem_nil, or_false] at hn
    rcases hn with rfl | rfl | rfl <;> cases hs
  · rintro m hm n hn ⟨g, hg, -⟩ ⟨g', hg', -⟩
    simp only [foyer, List.mem_cons, List.not_mem_nil, or_false] at hm hn
    rcases hm with rfl | rfl | rfl <;> cases hg
    rcases hn with rfl | rfl | rfl <;> cases hg'
    rfl

theorem foyer_compile_backwards :
    foyer.Reordered foyerBackwards ∧ foyer.OneEntry ∧ foyer.OneAnchor ∧
    (∃ f f', (Job.mk foyer "Foyer" .default).cloudFlow = .ok f ∧
      (Job.mk foyerBackwards "Foyer" .default).cloudFlow = .ok f' ∧
      f.initialState = "hello" ∧ f'.initialState = "hello" ∧
      ∀ id, f'.states.get? id = f.states.get? id) ∧
    ∀ extension context,
      (Job.mk foyerBackwards "Foyer" .default).extractMenu extension context =
        (Job.mk foyer "Foyer" .default).extractMenu extension context := by
  obtain ⟨-, -, hcloud, -, hmenu⟩ := Job.compile_of_reordered foyer_reordered "Foyer" .default none
  have hstart : foyer.StartsAt (.ofStep "hello" .answer) := Diagram.start?_eq_some_iff.mp rfl
  have hflow := Job.cloudFlow_eq_ok_iff (j := ⟨foyer, "Foyer", .default⟩).mpr ⟨_, hstart, rfl⟩
  obtain ⟨f', hf', hstates, hinitial⟩ := hcloud _ hflow
  exact ⟨foyer_reordered, foyer_oneEntry, foyer_oneAnchor,
    ⟨_, f', hflow, hf', rfl, hinitial foyer_oneEntry, hstates⟩,
    hmenu foyer_oneEntry foyer_oneAnchor⟩

end Switchboard
