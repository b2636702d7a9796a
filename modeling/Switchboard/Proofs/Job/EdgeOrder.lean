import Switchboard.Proofs.Job.Alike

/-!
# Switchboard.Proofs.Job.EdgeOrder

What compilation sees of the edges of a diagram: for each id, the targets and labels of the edges
that leave it, in order. How the edges of different ids are mixed, what the edges are called and
where the nodes are drawn makes no difference to any artifact.
-/

namespace Switchboard
namespace Diagram

/-- The diagrams have the same nodes, up to their places, and edges with the same targets and labels
leave every id, in the same order. -/
structure Interchangeable (d d' : Diagram) : Prop where
  nodes_eq : d.nodes.map Node.unplaced = d'.nodes.map Node.unplaced
  leaving_eq : ∀ source, d.leaving source = d'.leaving source

theorem exists_leaving_iff_isTarget {d : Diagram} {id : String} :
    (∃ source label, (id, label) ∈ d.leaving source) ↔ d.isTarget id = true := by
  rw [isTarget_eq_true]
  constructor
  · rintro ⟨source, label, hmem⟩
    obtain ⟨e, he, heq⟩ := List.mem_map.mp hmem
    exact ⟨e, (List.mem_filter.mp he).1, congrArg (·.1) heq⟩
  · rintro ⟨e, he, rfl⟩
    exact ⟨e.source, e.label, List.mem_map.mpr ⟨e, by simp [outgoing, he], rfl⟩⟩

namespace Interchangeable

variable {d d' : Diagram} (h : d.Interchangeable d')
include h

theorem alikeAtNodes : d.AlikeAtNodes d' where
  nodes_alike := Node.forall₂_of_unplaced_eq h.nodes_eq
  leaving_eq id _ := h.leaving_eq id

theorem isTarget_eq (id : String) : d.isTarget id = d'.isTarget id := by
  rw [Bool.eq_iff_iff, ← exists_leaving_iff_isTarget, ← exists_leaving_iff_isTarget]
  simp only [h.leaving_eq]

theorem successors_eq (id : String) : d.successors id = d'.successors id := by
  have hl := congrArg (List.map (·.1)) (h.leaving_eq id)
  rwa [leaving, leaving, List.map_map, List.map_map] at hl

theorem exists_startsAt {n : Node} (hn : d.StartsAt n) : ∃ n', d'.StartsAt n' ∧ n.id = n'.id :=
  h.alikeAtNodes.exists_startsAt h.isTarget_eq hn

end Interchangeable
end Diagram

/-- Only the order of the edges that leave one id matters: interchangeable diagrams give the same
artifact for every target. -/
theorem Job.compile_of_interchangeable {d d' : Diagram} (h : d.Interchangeable d') (name : String)
    (options : Options) (target : Target) (r : Option Routing) :
    (Job.mk d name options).compile target r = (Job.mk d' name options).compile target r := by
  by_cases hempty : d.nodes = []
  · have hempty' : d'.nodes = [] := by
      have hmap := h.nodes_eq
      rw [hempty, List.map_nil] at hmap
      exact List.map_eq_nil_iff.mp hmap.symm
    rw [compile_of_eq_nil hempty, compile_of_eq_nil hempty']
  · obtain ⟨n, hn⟩ := exists_startsAt (j := ⟨d, name, options⟩) hempty
    obtain ⟨n', hn', hid⟩ := h.exists_startsAt hn
    refine compile_of_alike h.alikeAtNodes name options hn hn' hid ?_ target r
    intro goal
    rw [← hid]
    exact Diagram.path_index_congr goal (h.alikeAtNodes.hasNode_eq n.id)
      fun id _ => h.successors_eq id

/-- A greeting, a choice of one digit and a desk. -/
def frontDesk : Diagram where
  nodes := [
    .ofStep "hello" .answer,
    .ofStep "ask" (.gather ⟨.dtmf, 1, 1, 5, "#", [.ofBag [("key", .string "1")]]⟩),
    .ofStep "desk" (.forward ⟨some "1001", none, 30⟩)]
  edges := [
    ⟨"e1", "hello", "ask", none⟩,
    ⟨"e2", "ask", "desk", some "1"⟩,
    ⟨"e3", "desk", "hello", some "Busy"⟩,
    ⟨"e4", "ask", "hello", some "timeout"⟩]

/-- `frontDesk` with other places of the nodes, other ids of the edges and another order of them. -/
def frontDeskRedrawn : Diagram where
  nodes := frontDesk.nodes.map fun n => { n with position := some ⟨.ofInt 7, .ofInt (-3)⟩ }
  edges := [
    ⟨"out", "ask", "desk", some "1"⟩,
    ⟨"busy", "desk", "hello", some "Busy"⟩,
    ⟨"again", "ask", "hello", some "timeout"⟩,
    ⟨"in", "hello", "ask", none⟩]

theorem frontDesk_interchangeable : frontDesk.Interchangeable frontDeskRedrawn where
  nodes_eq := rfl
  leaving_eq source := by
    by_cases hello : source = "hello"
    · subst hello
      decide
    by_cases ask : source = "ask"
    · subst ask
      decide
    by_cases desk : source = "desk"
    · subst desk
      decide
    · simp [Diagram.leaving, Diagram.outgoing, frontDesk, frontDeskRedrawn, Ne.symm hello,
        Ne.symm ask, Ne.symm desk]

theorem frontDesk_compile_redrawn :
    frontDesk.edges ≠ frontDeskRedrawn.edges ∧ frontDesk.Interchangeable frontDeskRedrawn ∧
    ∀ target r, (Job.mk frontDesk "Front desk" .default).compile target r =
      (Job.mk frontDeskRedrawn "Front desk" .default).compile target r :=
  ⟨by decide, frontDesk_interchangeable,
    Job.compile_of_interchangeable frontDesk_interchangeable "Front desk" .default⟩

end Switchboard
