import Switchboard.Proofs.Flow.Renaming
import Switchboard.Proofs.Menu.Anchor

/-!
# Switchboard.Proofs.Menu.Renaming

The menus of diagrams that are alike under a renaming. A way ends with the same destination
(`destination_resolve_eq`), so a gather node has the same options (`gatherOption_eq`); the greetings
are the same if the path is, under its new names (`greetings_eq`).
-/

namespace Switchboard

theorem Step.Alike.decision_eq {s s' : Step} (h : s.Alike s') (o : Options) :
    s'.decision o = s.decision o := by
  cases h with
  | refl => rfl
  | other hextension => rw [decision, decision, hextension]

theorem Node.AlikeUnder.greeting?_eq {r : String → String} {n n' : Node} (h : n.AlikeUnder r n') :
    n'.greeting? = n.greeting? := by
  obtain heq | ⟨bag, bag', hbag, hbag'⟩ := h.step_alike.eq_or_other
  · rw [Node.greeting?, Node.greeting?, heq, h.tag_eq]
  · rw [Node.greeting?, Node.greeting?, hbag, hbag']

namespace Diagram

/-- The greetings of a menu, said of the path that is searched. -/
theorem greetings_index_of_startsAt {d : Diagram} {n : Node} (h : d.StartsAt n)
    (goal : String) :
    d.index.greetings goal =
      let greetings :=
        (((d.index.path n.id goal).filterMap d.node?).findSome? Node.greeting?).getD ("", "")
      (greetingOrDefault greetings.1, greetingOrDefault greetings.2) := by
  have hnode : d.index.node? = d.node? := funext d.node?_index
  simp only [Index.greetings, start?_index, start?_eq_some_iff.mpr h, hnode]

namespace AlikeUnder

variable {S : Set String} {r : String → String} {d d' : Diagram} (h : d.AlikeUnder S r d')
variable {id : String} (o : Options)
include h

theorem next?_eq (hid : id ∈ d.ids) : d'.index.next? (r id) = (d.index.next? id).map r :=
  h.follow_eq hid .first

/-- The two ways meet nodes that do the same, and go on from them together. -/
theorem destination_resolveFrom_eq (fresh : List String) (id : String) :
    ∀ fresh', id ∈ S → (∀ i ∈ S, i ∈ fresh ↔ r i ∈ fresh') →
      (d'.index.resolveFrom o fresh' (r id)).destination =
        (d.index.resolveFrom o fresh id).destination := by
  fun_induction Index.resolveFrom d.index o fresh id with
  | case1 fresh id hn =>
    intro fresh' hid _
    rw [node?_index] at hn
    rw [Index.resolveFrom, node?_index, h.node?_eq_none hid hn]
  | case2 fresh id n hn hfresh dest hdest =>
    intro fresh' hid hiff
    rw [node?_index] at hn
    obtain ⟨n', hn', halike⟩ := h.exists_node? id hid n hn
    rw [Index.resolveFrom, node?_index, hn']
    simp only [if_pos ((hiff id hid).mp hfresh), halike.step_alike.decision_eq, hdest]
  | case3 fresh id n hn hfresh hdec next hnext ih =>
    intro fresh' hid hiff
    rw [node?_index] at hn
    obtain ⟨n', hn', halike⟩ := h.exists_node? id hid n hn
    have hnext' := h.next?_eq (mem_ids_of_node? hn)
    rw [hnext, Option.map_some] at hnext'
    rw [Index.resolveFrom, node?_index, hn']
    simp only [if_pos ((hiff id hid).mp hfresh), halike.step_alike.decision_eq, hdec, hnext']
    apply ih _ (h.mem_of_mem_ids (mem_ids_of_follow (x := .first) hnext))
    intro i hi
    have heq : r i = r id ↔ i = id := h.injOn.eq_iff hi hid
    simp [List.removeAll, hiff i hi, heq]
  | case4 fresh id n hn hfresh hdec hnext =>
    intro fresh' hid hiff
    rw [node?_index] at hn
    obtain ⟨n', hn', halike⟩ := h.exists_node? id hid n hn
    have hnext' := h.next?_eq (mem_ids_of_node? hn)
    rw [hnext, Option.map_none] at hnext'
    rw [Index.resolveFrom, node?_index, hn']
    simp only [if_pos ((hiff id hid).mp hfresh), halike.step_alike.decision_eq, hdec, hnext']
  | case5 fresh id n hn hfresh =>
    intro fresh' hid hiff
    rw [node?_index] at hn
    obtain ⟨n', hn', -⟩ := h.exists_node? id hid n hn
    rw [Index.resolveFrom, node?_index, hn']
    simp only [if_neg fun hmem => hfresh ((hiff id hid).mpr hmem)]

theorem destination_resolve_eq (hid : id ∈ S) :
    (d'.index.resolve o (r id)).destination = (d.index.resolve o id).destination :=
  h.destination_resolveFrom_eq o d.ids id d'.ids hid fun _ hi => (h.mem_ids_iff hi).symm

/-- Of the edge that an option takes only the target matters. -/
theorem gatherOption_eq (e : MenuEntry) (hid : id ∈ d.ids) (extension : String) (position : Nat) :
    e.gatherOption d'.index o (r id) extension position =
      e.gatherOption d.index o id extension position := by
  have hoption (c : Diagram) (i : String) : e.gatherOption c.index o i extension position =
      { digit := e.gatherDigit position
        destination := ((e.edge? (c.outgoing i)).map (·.target)).elim
          (.transfer extension menuContext) fun target => (c.index.resolve o target).destination
        order := position
        description := e.label.getD ("Option " ++ e.gatherDigit position)
        enabled := true } := by
    rw [MenuEntry.gatherOption, outgoing_index]
    cases e.edge? (c.outgoing i) <;> rfl
  have hfind (edges : List Edge) :
      e.edge? edges = edges.find? fun edge => edge.label.any e.matchesLabel := by
    rw [MenuEntry.edge?]
    congr 1
    funext edge
    cases edge.label <;> rfl
  have hedge : (e.edge? (d'.outgoing (r id))).map (·.target) =
      (e.edge? (d.outgoing id)).map fun e => r e.target := by
    rw [hfind, hfind]
    exact h.find?_outgoing_eq hid fun label => label.any e.matchesLabel
  rw [hoption, hoption, hedge]
  cases he : e.edge? (d.outgoing id) with
  | none => rfl
  | some edge =>
    have htarget : edge.target ∈ S := h.mem_of_mem_outgoing (List.mem_of_find?_eq_some he)
    simp only [Option.map_some, Option.elim_some, h.destination_resolve_eq o htarget]

/-- A menu made of the gather node under its new id may have other greetings. -/
theorem ofGather_eq (hid : id ∈ d.ids) (gather : Gather) (name extension context : String) :
    Menu.ofGather d'.index o (r id) gather name extension context =
      { Menu.ofGather d.index o id gather name extension context with
        origin := .gatherNode (r id)
        greetLong := (d'.index.greetings (r id)).1
        greetShort := (d'.index.greetings (r id)).2 } := by
  have hoptions : (fun i (e : MenuEntry) => e.gatherOption d'.index o (r id) extension (i + 1)) =
      fun i e => e.gatherOption d.index o id extension (i + 1) := by
    funext i e
    exact h.gatherOption_eq o e hid extension (i + 1)
  rw [Menu.ofGather, Menu.ofGather, hoptions]

theorem findSome?_greeting?_eq {path : List String} (hpath : ∀ id ∈ path, id ∈ S) :
    ((path.map r).filterMap d'.node?).findSome? Node.greeting? =
      (path.filterMap d.node?).findSome? Node.greeting? := by
  induction path with
  | nil => rfl
  | cons id path ih =>
    obtain ⟨hid, hpath⟩ := List.forall_mem_cons.mp hpath
    cases hn : d.node? id with
    | none =>
      rw [List.map_cons, List.filterMap_cons_none (h.node?_eq_none hid hn),
        List.filterMap_cons_none hn, ih hpath]
    | some n =>
      obtain ⟨n', hn', halike⟩ := h.exists_node? id hid n hn
      rw [List.map_cons, List.filterMap_cons_some hn', List.filterMap_cons_some hn,
        List.findSome?_cons, List.findSome?_cons, halike.greeting?_eq, ih hpath]

theorem greetings_eq {goal : String} {n n' : Node} (hn : d.StartsAt n) (hn' : d'.StartsAt n')
    (hpath : d'.index.path n'.id (r goal) = (d.index.path n.id goal).map r) :
    d'.index.greetings (r goal) = d.index.greetings goal := by
  have hmem : ∀ id ∈ d.index.path n.id goal, id ∈ S := fun id hid =>
    h.mem_of_mentions id ((mentions_of_mem_ids hn.id_mem).of_reaches (reaches_of_mem_path hid))
  rw [greetings_index_of_startsAt hn, greetings_index_of_startsAt hn', hpath,
    h.findSome?_greeting?_eq hmem]

end AlikeUnder
end Diagram
end Switchboard
