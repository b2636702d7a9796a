import Switchboard.Diagram.Index
import Switchboard.Proofs.Diagram.Lookup

/-!
# Switchboard.Proofs.Diagram.Indexing

The index of a diagram answers as scans in the order of the two lists do, also where ids are
repeated and edges dangle or run side by side. Of all nodes of an id, and of all edges that qualify,
the first one counts (`First`); if it dangles, no later edge stands in for it (`Diagram.Leads`).

* `Diagram.find?_bind_targetOf?_eq_iff`: what a scan for an edge comes to.
* `Diagram.index_scans`: all answers of the index, said of the lists alone (`Index.Scans`).
-/

namespace Switchboard

/-- `x` is the first member with the property `p`. -/
def First {α : Type} (p : α → Prop) (xs : List α) (x : α) : Prop :=
  ∃ before after, xs = before ++ x :: after ∧ p x ∧ ∀ y ∈ before, ¬ p y

/-- Where the first edge with the property `p` leads: to the node at its end, if one is there. -/
inductive Diagram.Leads (d : Diagram) (p : Edge → Prop) : Option String → Prop where
  | on {e : Edge} : First p d.edges e → e.target ∈ d.ids → Leads d p (some e.target)
  | dangling {e : Edge} : First p d.edges e → e.target ∉ d.ids → Leads d p none
  | missing : (∀ e ∈ d.edges, ¬ p e) → Leads d p none

/-- The index gives the answers that the lists of the diagram hold. -/
structure Index.Scans (g : Index) (d : Diagram) : Prop where
  node : ∀ id n, g.node? id = some n ↔ First (·.id = id) d.nodes n
  no_node : ∀ id, g.node? id = none ↔ ∀ n ∈ d.nodes, n.id ≠ id
  outgoing : ∀ id, g.outgoing id = d.edges.filter (·.source == id)
  next : ∀ id r, g.next? id = r ↔ d.Leads (·.source = id) r
  exit : ∀ id label r,
    g.exit? id label = r ↔ d.Leads (fun e => e.source = id ∧ e.label = some label) r
  target : ∀ id, id ∈ g.targets ↔ ∃ e ∈ d.edges, e.target = id
  start : ∀ n, g.start? = some n ↔ d.StartsAt n

theorem find?_eq_some_iff_first {α : Type} {p : α → Prop} {q : α → Bool}
    (h : ∀ x, q x = true ↔ p x) {xs : List α} {x : α} :
    xs.find? q = some x ↔ First p xs x := by
  have hnot (y : α) : (!q y) = true ↔ ¬ p y := by rw [← h, Bool.not_eq_true', Bool.not_eq_true]
  rw [List.find?_eq_some_iff_append, First]
  simp only [h, hnot]
  constructor
  · rintro ⟨hx, before, after, hxs, hbefore⟩
    exact ⟨before, after, hxs, hx, hbefore⟩
  · rintro ⟨before, after, hxs, hx, hbefore⟩
    exact ⟨hx, before, after, hxs, hbefore⟩

namespace Diagram

theorem find?_bind_targetOf?_eq_iff {d : Diagram} {p : Edge → Prop} {q : Edge → Bool}
    (h : ∀ e, q e = true ↔ p e) {r : Option String} :
    (d.edges.find? q).bind d.targetOf? = r ↔ d.Leads p r := by
  constructor
  · rintro rfl
    cases hfind : d.edges.find? q with
    | none =>
      refine .missing fun e he hp => ?_
      exact List.find?_eq_none.mp hfind e he ((h e).mpr hp)
    | some e =>
      have hfirst : First p d.edges e := (find?_eq_some_iff_first h).mp hfind
      rw [Option.bind_some, targetOf?]
      split
      · rename_i hnode
        exact .on hfirst (hasNode_iff.mp hnode)
      · rename_i hnode
        exact .dangling hfirst fun htarget => hnode (hasNode_iff.mpr htarget)
  · intro hleads
    cases hleads with
    | @on e hfirst htarget =>
      rw [(find?_eq_some_iff_first h).mpr hfirst, Option.bind_some, targetOf?,
        if_pos (hasNode_iff.mpr htarget)]
    | @dangling e hfirst htarget =>
      rw [(find?_eq_some_iff_first h).mpr hfirst, Option.bind_some, targetOf?,
        if_neg fun hnode => htarget (hasNode_iff.mp hnode)]
    | missing hnone =>
      have hfind : d.edges.find? q = none := by
        rw [List.find?_eq_none]
        intro e he hq
        exact hnone e he ((h e).mp hq)
      rw [hfind, Option.bind_none]

theorem mem_targets_index {d : Diagram} {id : String} :
    id ∈ d.index.targets ↔ ∃ e ∈ d.edges, e.target = id := by
  rw [← isTarget_eq_true, ← isTarget_index, Std.HashSet.mem_iff_contains]
  rfl

theorem index_scans (d : Diagram) : d.index.Scans d where
  node id n := by
    rw [node?_index, node?]
    exact find?_eq_some_iff_first fun _ => beq_iff_eq
  no_node id := by
    rw [node?_index, node?_eq_none_iff, mem_ids]
    simp
  outgoing id := d.outgoing_index id
  next id r := by
    rw [next?_index, next?_eq_bind]
    exact find?_bind_targetOf?_eq_iff fun _ => beq_iff_eq
  exit id label r := by
    rw [exit?_index, exit?_eq_bind]
    exact find?_bind_targetOf?_eq_iff fun e => by simp
  target _ := mem_targets_index
  start n := by rw [start?_index, start?_eq_some_iff]

end Diagram
end Switchboard
