import Mathlib.Data.List.Forall2
import Switchboard.Menu.Resolution
import Switchboard.Proofs.Diagram.Lookup
import Switchboard.Proofs.Diagram.Path

/-!
# Switchboard.Proofs.Diagram.Alike

Diagrams that look alike from their nodes: nodes that do the same in the same order, wherever they
are drawn, and the same targets and labels of the edges that leave them. Edges that leave an id
without a node may differ. What is asked of a node has the same answer in both diagrams; only the
start and the path searches may see a difference.
-/

namespace Switchboard

def Node.unplaced (n : Node) : Node := { n with position := none }

/-! ## Related values -/

section

variable {α β : Type} {R : α → β → Prop} {a c : Option α} {b d : Option β}

theorem rel_or (h : Option.Rel R a b) (h' : Option.Rel R c d) :
    Option.Rel R (a.or c) (b.or d) := by
  cases h with
  | some hab => exact .some hab
  | none => exact h'

theorem exists_of_rel (h : Option.Rel R a b) {x : α} (hx : a = some x) :
    ∃ y, b = some y ∧ R x y := by
  subst hx
  cases h with
  | some hxy => exact ⟨_, rfl, hxy⟩

theorem map_eq_of_rel {γ : Type} {f : α → γ} {g : β → γ} (h : Option.Rel R a b)
    (hfg : ∀ x y, R x y → f x = g y) : a.map f = b.map g := by
  cases h with
  | some hxy => exact congrArg some (hfg _ _ hxy)
  | none => rfl

theorem bind_eq_of_rel {γ : Type} {f : α → Option γ} {g : β → Option γ} (h : Option.Rel R a b)
    (hfg : ∀ x y, R x y → f x = g y) : a.bind f = b.bind g := by
  cases h with
  | some hxy => exact hfg _ _ hxy
  | none => rfl

theorem isSome_eq_of_rel (h : Option.Rel R a b) : a.isSome = b.isSome := by
  cases h <;> rfl

end

section

variable {ms ns : List Node} {R : Node → Node → Prop} (h : List.Forall₂ R ms ns)
include h

theorem head?_of_forall₂ : Option.Rel R ms.head? ns.head? := by
  cases h with
  | nil => exact .none
  | cons hmn _ => exact .some hmn

theorem find?_of_forall₂ {p : Node → Bool} (hp : ∀ m n, R m n → p m = p n) :
    Option.Rel R (ms.find? p) (ns.find? p) := by
  induction h with
  | nil => exact .none
  | @cons m n ms ns hmn _ ih =>
    rw [List.find?_cons, List.find?_cons, hp m n hmn]
    cases p n with
    | false => exact ih
    | true => exact .some hmn

theorem findSome?_of_forall₂ {β : Type} {f : Node → Option β} (hf : ∀ m n, R m n → f m = f n) :
    ms.findSome? f = ns.findSome? f := by
  induction h with
  | nil => rfl
  | cons hmn _ ih => rw [List.findSome?_cons, List.findSome?_cons, hf _ _ hmn, ih]

end

namespace Diagram

variable {d d' : Diagram} {R : Node → Node → Prop} (h : List.Forall₂ R d.nodes d'.nodes)
include h

theorem node?_of_forall₂ (hid : ∀ m n, R m n → m.id = n.id) (id : String) :
    Option.Rel R (d.node? id) (d'.node? id) :=
  find?_of_forall₂ h fun m n hmn => by rw [hid m n hmn]

/-- If edges lead to the same ids, calls begin at related nodes. -/
theorem start?_of_forall₂ (hid : ∀ m n, R m n → m.id = n.id)
    (htarget : ∀ id, d.isTarget id = d'.isTarget id) : Option.Rel R d.start? d'.start? := by
  refine rel_or ?_ (head?_of_forall₂ h)
  rw [funext htarget]
  exact find?_of_forall₂ h fun m n hmn => by rw [hid m n hmn]

end Diagram

/-! ## Steps and nodes -/

/-- Steps that do the same: of the properties that a node without a meaning of its own keeps, only
the extension is ever asked for. -/
inductive Step.Alike : Step → Step → Prop where
  | refl (s : Step) : Alike s s
  | other {bag bag' : Bag} (h : bag.extension? = bag'.extension?) :
    Alike (.other bag) (.other bag')

theorem Step.Alike.eq_or_other {s s' : Step} (h : s.Alike s') :
    s' = s ∨ ∃ bag bag', s = .other bag ∧ s' = .other bag' := by
  cases h with
  | refl => exact .inl rfl
  | other _ => exact .inr ⟨_, _, rfl, rfl⟩

/-- The nodes do the same, and the id of the one is the new name of the other's. -/
structure Node.AlikeUnder (r : String → String) (n n' : Node) : Prop where
  id_eq : n'.id = r n.id
  tag_eq : n'.tag = n.tag
  step_alike : n.step.Alike n'.step

namespace Node

theorem AlikeUnder.refl (n : Node) : n.AlikeUnder (fun i => i) n := ⟨rfl, rfl, .refl _⟩

theorem alikeUnder_of_unplaced_eq {n n' : Node} (h : n.unplaced = n'.unplaced) :
    n.AlikeUnder (fun i => i) n' := by
  cases n
  cases n'
  cases h
  exact ⟨rfl, rfl, .refl _⟩

theorem forall₂_of_unplaced_eq {ms ns : List Node}
    (h : ms.map Node.unplaced = ns.map Node.unplaced) :
    List.Forall₂ (Node.AlikeUnder fun i => i) ms ns := by
  rw [← List.forall₂_eq_eq_eq, List.forall₂_map_left_iff, List.forall₂_map_right_iff] at h
  exact h.imp fun _ _ => alikeUnder_of_unplaced_eq

end Node

/-! ## Diagrams -/

namespace Diagram

/-- The targets and labels of the edges that leave an id, in order. -/
def leaving (d : Diagram) (source : String) : List (String × Option String) :=
  (d.outgoing source).map fun e => (e.target, e.label)

/-- The nodes do the same, and the same edges leave the id of a node. -/
structure AlikeAtNodes (d d' : Diagram) : Prop where
  nodes_alike : List.Forall₂ (Node.AlikeUnder fun i => i) d.nodes d'.nodes
  leaving_eq : ∀ id ∈ d.ids, d.leaving id = d'.leaving id

namespace AlikeAtNodes

variable {d d' : Diagram} (h : d.AlikeAtNodes d')
include h

theorem ids_eq : d.ids = d'.ids := by
  rw [ids, ids, ← List.forall₂_eq_eq_eq, List.forall₂_map_left_iff, List.forall₂_map_right_iff]
  exact h.nodes_alike.imp fun _ _ halike => halike.id_eq.symm

theorem hasNode_eq (id : String) : d.hasNode id = d'.hasNode id := by
  rw [Bool.eq_iff_iff, hasNode_iff, hasNode_iff, h.ids_eq]

/-- Both diagrams have a node of this id that does the same, or neither has. -/
theorem node?_rel (id : String) :
    Option.Rel (Node.AlikeUnder fun i => i) (d.node? id) (d'.node? id) :=
  node?_of_forall₂ h.nodes_alike (fun _ _ halike => halike.id_eq.symm) id

/-- If edges lead to the same ids, calls begin at the same one. -/
theorem exists_startsAt (htarget : ∀ id, d.isTarget id = d'.isTarget id) {n : Node}
    (hn : d.StartsAt n) : ∃ n', d'.StartsAt n' ∧ n.id = n'.id := by
  have hstart := start?_of_forall₂ h.nodes_alike (fun _ _ halike => halike.id_eq.symm) htarget
  obtain ⟨n', hn', halike⟩ := exists_of_rel hstart (start?_eq_some_iff.mpr hn)
  exact ⟨n', start?_eq_some_iff.mp hn', halike.id_eq.symm⟩

end AlikeAtNodes
end Diagram
end Switchboard
