import Switchboard.Proofs.Job.Selection
import Switchboard.Proofs.Menu.Renaming

/-!
# Switchboard.Proofs.Job.Alike

What compilation makes of two diagrams that look alike from their nodes. From the same start both
give the same flows, and their menus differ in the greetings at most: a transition, a state and the
destination of an option only depend on what leaves the ids of nodes. All this is known of diagrams
that are alike under a renaming; here every id keeps its name.
-/

namespace Switchboard
namespace Diagram.AlikeAtNodes

variable {d d' : Diagram} (h : d.AlikeAtNodes d') {id : String}
include h

theorem states_eq {α : Type} {action : Node → α}
    (haction : ∀ n n', n.AlikeUnder (fun i => i) n' → action n' = action n) (ids : List String) :
    d.index.states action ids = d'.index.states action ids := by
  apply OrderedMap.ext
  have hentries := h.alikeUnder.entries_states haction ids fun _ _ => Set.mem_univ _
  simpa [State.renamed_self] using hentries.symm

theorem anchor_eq : d.anchor = d'.anchor := by
  have hmenu : d.menuNode? = d'.menuNode? := by
    refine findSome?_of_forall₂ h.nodes_alike fun n n' halike => ?_
    obtain heq | ⟨bag, bag', hbag, hbag'⟩ := halike.step_alike.eq_or_other
    · rw [heq, halike.id_eq]
    · rw [hbag, hbag']
  have hgather : d.gatherNode? = d'.gatherNode? := by
    refine findSome?_of_forall₂ h.nodes_alike fun n n' halike => ?_
    obtain heq | ⟨bag, bag', hbag, hbag'⟩ := halike.step_alike.eq_or_other
    · rw [heq, halike.id_eq]
    · rw [hbag, hbag']
  rw [anchor, anchor, hmenu, hgather]

theorem greetings_eq {goal : String} {n n' : Node} (hn : d.StartsAt n) (hn' : d'.StartsAt n')
    (hpath : d.index.path n.id goal = d'.index.path n'.id goal) :
    d.index.greetings goal = d'.index.greetings goal :=
  (h.alikeUnder.greetings_eq hn hn' (hpath.symm.trans (List.map_id _).symm)).symm

theorem ofGather_eq (o : Options) (hid : id ∈ d.ids) (gather : Gather)
    (name extension context : String) :
    Menu.ofGather d.index o id gather name extension context =
      { Menu.ofGather d'.index o id gather name extension context with
        greetLong := (d.index.greetings id).1
        greetShort := (d.index.greetings id).2 } := by
  rw [h.alikeUnder.ofGather_eq o hid gather name extension context]
  rfl

end Diagram.AlikeAtNodes

/-! ## Whole compilations -/

namespace Job

variable {d d' : Diagram} (h : d.AlikeAtNodes d') (name : String) (o : Options)
include h

theorem cloudFlowFrom_of_alike (start : String) :
    cloudFlowFrom ⟨d, name, o⟩ start = cloudFlowFrom ⟨d', name, o⟩ start := by
  simp only [cloudFlowFrom, CloudFlow.order, h.ids_eq,
    h.states_eq fun _ _ hn => hn.cloudAction_eq o]

theorem pbxFlowFrom_of_alike (r : Option Routing) (start : String) :
    pbxFlowFrom ⟨d, name, o⟩ r start = pbxFlowFrom ⟨d', name, o⟩ r start := by
  simp only [pbxFlowFrom, h.ids_eq, h.states_eq fun _ _ hn => hn.pbxAction_eq]

/-- Either the menus are the same, or they come from one gather node and only their greetings
differ. -/
theorem extractMenu_of_alike (extension context : String) :
    extractMenu ⟨d, name, o⟩ extension context = extractMenu ⟨d', name, o⟩ extension context ∨
    ∃ id, (extractMenu ⟨d, name, o⟩ extension context).origin = .gatherNode id ∧
      extractMenu ⟨d, name, o⟩ extension context =
        { extractMenu ⟨d', name, o⟩ extension context with
          greetLong := (d.index.greetings id).1
          greetShort := (d.index.greetings id).2 } ∧
      extractMenu ⟨d', name, o⟩ extension context =
        { extractMenu ⟨d', name, o⟩ extension context with
          greetLong := (d'.index.greetings id).1
          greetShort := (d'.index.greetings id).2 } := by
  rw [extractMenu_eq, extractMenu_eq, ← h.anchor_eq]
  cases ha : d.anchor with
  | menu id s => exact .inl rfl
  | none => exact .inl rfl
  | gather id gather =>
    have hid := Diagram.mem_ids_of_anchor_eq_gather ha
    exact .inr ⟨id, rfl, h.ofGather_eq o hid gather name extension context, rfl⟩

/-- From one start and with one path to every goal, everything is the same. -/
theorem compile_of_alike {n n' : Node} (hn : d.StartsAt n) (hn' : d'.StartsAt n')
    (hid : n.id = n'.id) (hpath : ∀ goal, d.index.path n.id goal = d'.index.path n'.id goal)
    (target : Target) (r : Option Routing) :
    compile ⟨d, name, o⟩ target r = compile ⟨d', name, o⟩ target r := by
  have hcloud : cloudFlow ⟨d, name, o⟩ = cloudFlow ⟨d', name, o⟩ := by
    rw [cloudFlow_eq_ok_iff.mpr ⟨n, hn, rfl⟩, cloudFlow_eq_ok_iff.mpr ⟨n', hn', rfl⟩,
      cloudFlowFrom_of_alike h, hid]
  have hdialplan : dialplanArtifact ⟨d, name, o⟩ r = dialplanArtifact ⟨d', name, o⟩ r := by
    rw [dialplanArtifact_of_startsAt hn, dialplanArtifact_of_startsAt hn',
      pbxFlowFrom_of_alike h, hid]
    rfl
  have hmenu : menuFor ⟨d, name, o⟩ r = menuFor ⟨d', name, o⟩ r := by
    obtain hm | ⟨id, -, hm, hm'⟩ := extractMenu_of_alike h name o
      (o.routing r).destination (o.routing r).context.name
    · exact hm
    · rw [h.greetings_eq hn hn' (hpath id)] at hm
      exact hm.trans hm'.symm
  have hne : d.nodes ≠ [] := List.ne_nil_of_mem hn.mem
  have hne' : d'.nodes ≠ [] := List.ne_nil_of_mem hn'.mem
  rw [compile_of_ne_nil hne, compile_of_ne_nil hne', hcloud, hdialplan, hmenu]
  rfl

/-- If edges lead to the same ids, and from every id to the same ones, everything is the same. -/
theorem compile_of_alike_of_successors (htarget : ∀ id, d.isTarget id = d'.isTarget id)
    (hnext : ∀ id, d.successors id = d'.successors id) (target : Target) (r : Option Routing) :
    compile ⟨d, name, o⟩ target r = compile ⟨d', name, o⟩ target r := by
  by_cases hempty : d.nodes = []
  · have hempty' : d'.nodes = [] := by
      have hnodes := h.nodes_alike
      rw [hempty] at hnodes
      exact List.forall₂_nil_left_iff.mp hnodes
    rw [compile_of_eq_nil hempty, compile_of_eq_nil hempty']
  · obtain ⟨n, hn⟩ := exists_startsAt (j := ⟨d, name, o⟩) hempty
    obtain ⟨n', hn', hid⟩ := h.exists_startsAt htarget hn
    refine compile_of_alike h name o hn hn' hid (fun goal => ?_) target r
    rw [← hid]
    exact Diagram.path_index_congr goal (h.hasNode_eq n.id) fun id _ => hnext id

end Job
end Switchboard
