import Switchboard.Job
import Switchboard.Proofs.Diagram.Lookup

/-!
# Switchboard.Proofs.Menu.Anchor

The node that the menu of a diagram is extracted from, said of the list of the nodes, and what the
menu takes over from it.
-/

namespace Switchboard

/-- The menu is extracted from the gather node `n`, which comes after the nodes `before`: the
diagram has no menu node, and `n` is its first gather node with entries. -/
structure Diagram.AnchoredAt (d : Diagram) (before : List Node) (n : Node) (g : Gather) : Prop where
  nodes_eq : ∃ after, d.nodes = before ++ n :: after
  step_eq : n.step = .gather g
  entries_ne : g.entries ≠ []
  no_menu : ∀ m ∈ d.nodes, ∀ s, m.step ≠ .menu s
  first : ∀ m ∈ before, ∀ g', m.step = .gather g' → g'.entries = []

namespace Diagram

variable {d : Diagram} {id : String} {g : Gather}

theorem menuNode?_eq_none_iff : d.menuNode? = none ↔ ∀ m ∈ d.nodes, ∀ s, m.step ≠ .menu s := by
  rw [menuNode?, List.findSome?_eq_none_iff]
  refine forall₂_congr fun m _ => ?_
  cases m.step <;> simp

theorem menuNode?_eq_some_iff {s : MenuSettings} :
    d.menuNode? = some (id, s) ↔ ∃ before n after, d.nodes = before ++ n :: after ∧
      n.id = id ∧ n.step = .menu s ∧ ∀ m ∈ before, ∀ s', m.step ≠ .menu s' := by
  rw [menuNode?, List.findSome?_eq_some_iff]
  refine exists_congr fun before => exists_congr fun n => exists_congr fun after =>
    and_congr_right fun _ => ?_
  rw [← and_assoc]
  refine and_congr ?_ (forall₂_congr fun m _ => ?_)
  · cases n.step <;> simp
  · cases m.step <;> simp

theorem gatherNode?_eq_some_iff :
    d.gatherNode? = some (id, g) ↔ ∃ before n after, d.nodes = before ++ n :: after ∧
      n.id = id ∧ n.step = .gather g ∧ g.entries ≠ [] ∧
      ∀ m ∈ before, ∀ g', m.step = .gather g' → g'.entries = [] := by
  rw [gatherNode?, List.findSome?_eq_some_iff]
  refine exists_congr fun before => exists_congr fun n => exists_congr fun after =>
    and_congr_right fun _ => ?_
  rw [← and_assoc, ← and_assoc]
  refine and_congr ?_ (forall₂_congr fun m _ => ?_)
  · cases n.step <;> simp
    grind
  · cases m.step <;> simp

theorem gatherNode?_eq_none_iff :
    d.gatherNode? = none ↔ ∀ m ∈ d.nodes, ∀ g, m.step = .gather g → g.entries = [] := by
  rw [gatherNode?, List.findSome?_eq_none_iff]
  refine forall₂_congr fun m _ => ?_
  cases m.step <;> simp

/-- The places that `AnchoredAt` speaks of are the anchors that are gather nodes. -/
theorem anchor_eq_gather_iff :
    d.anchor = .gather id g ↔ ∃ before n, n.id = id ∧ d.AnchoredAt before n g := by
  constructor
  · intro h
    rw [anchor] at h
    split at h
    · cases h
    next hmenu =>
      split at h
      · next hgather =>
        cases h
        obtain ⟨before, n, after, hnodes, hid, hstep, hne, hfirst⟩ :=
          gatherNode?_eq_some_iff.mp hgather
        exact ⟨before, n, hid, ⟨after, hnodes⟩, hstep, hne, menuNode?_eq_none_iff.mp hmenu, hfirst⟩
      · cases h
  · rintro ⟨before, n, hid, ⟨after, hnodes⟩, hstep, hne, hmenu, hfirst⟩
    rw [anchor, menuNode?_eq_none_iff.mpr hmenu,
      gatherNode?_eq_some_iff.mpr ⟨before, n, after, hnodes, hid, hstep, hne, hfirst⟩]

theorem mem_ids_of_anchor_eq_gather (h : d.anchor = .gather id g) : id ∈ d.ids := by
  obtain ⟨before, n, rfl, hn⟩ := anchor_eq_gather_iff.mp h
  obtain ⟨after, hnodes⟩ := hn.nodes_eq
  exact mem_ids.mpr ⟨n, by simp [hnodes], rfl⟩

end Diagram

namespace Job

theorem extractMenu_eq (j : Job) (extension context : String) :
    j.extractMenu extension context =
      match j.diagram.anchor with
      | .menu id s => .ofSettings id s j.name extension context
      | .gather id g => .ofGather j.diagram.index j.options id g j.name extension context
      | .none => .ofDefaults j.name extension context := rfl

theorem extractMenu_of_anchoredAt {j : Job} {before : List Node} {n : Node} {g : Gather}
    (h : j.diagram.AnchoredAt before n g) (extension context : String) :
    j.extractMenu extension context =
      .ofGather j.diagram.index j.options n.id g j.name extension context := by
  rw [extractMenu_eq, Diagram.anchor_eq_gather_iff.mpr ⟨before, n, rfl, h⟩]

end Job
end Switchboard
