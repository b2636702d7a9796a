import Mathlib.Order.WellFoundedSet
import Switchboard.Proofs.Diagram.Search
import Switchboard.Proofs.Menu.Anchor

/-!
# Switchboard.Proofs.Diagram.Entry

Diagrams without a cycle whose edges all leave nodes. Walking back along the edges from any node one
comes to an entry, a node id that no edge leads to (`exists_entry_reaches`). So calls begin at an
entry, and if there is only one, a path leads from it to every node (`Diagram.start_is_entry`).
-/

namespace Switchboard
namespace Diagram

variable {d : Diagram} {id : String}

/-- No way along the edges leads back to where it began. -/
def Acyclic (d : Diagram) : Prop := ∀ id, ¬ Relation.TransGen d.Joins id id

def IsEntry (d : Diagram) (id : String) : Prop := id ∈ d.ids ∧ ∀ e ∈ d.edges, e.target ≠ id

theorem acyclic_of_rank (rank : String → Nat) (h : ∀ e ∈ d.edges, rank e.source < rank e.target) :
    d.Acyclic := by
  have hup : ∀ source target, Relation.TransGen d.Joins source target →
      rank source < rank target := by
    intro source target hway
    induction hway with
    | single hjoins =>
      obtain ⟨e, he, rfl, rfl⟩ := hjoins
      exact h e he
    | tail _ hjoins ih =>
      obtain ⟨e, he, rfl, rfl⟩ := hjoins
      exact ih.trans (h e he)
  intro id hway
  exact Nat.lt_irrefl _ (hup id id hway)

/-- Walking back along the edges of an acyclic diagram ends, since it has finitely many nodes. -/
theorem Acyclic.wellFoundedOn (h : d.Acyclic) :
    {id | id ∈ d.ids}.WellFoundedOn (Relation.TransGen d.Joins) := by
  have : IsStrictOrder String (Relation.TransGen d.Joins) :=
    { irrefl := h, trans := fun _ _ _ => Relation.TransGen.trans }
  exact (List.finite_toSet d.ids).wellFoundedOn

theorem exists_entry_reaches (hacyclic : d.Acyclic) (hsources : ∀ e ∈ d.edges, e.source ∈ d.ids)
    (hid : id ∈ d.ids) : ∃ entry, d.IsEntry entry ∧ d.Reaches entry id := by
  refine hacyclic.wellFoundedOn.induction hid
    (P := fun id => ∃ entry, d.IsEntry entry ∧ d.Reaches entry id) fun id hid ih => ?_
  by_cases h : ∃ e ∈ d.edges, e.target = id
  · -- One step back along the edge, and the walk goes on from there.
    obtain ⟨e, he, ht⟩ := h
    have hjoins : d.Joins e.source id := ⟨e, he, rfl, ht⟩
    obtain ⟨entry, hentry, hreach⟩ := ih e.source (hsources e he) (.single hjoins)
    exact ⟨entry, hentry, Relation.ReflTransGen.tail hreach hjoins⟩
  · exact ⟨id, ⟨hid, fun e he ht => h ⟨e, he, ht⟩⟩, Reaches.refl d id⟩

theorem StartsAt.isEntry {n : Node} (h : d.StartsAt n) {entry : String} (hentry : d.IsEntry entry) :
    d.IsEntry n.id := by
  refine ⟨h.id_mem, ?_⟩
  cases h with
  | entry _ hno _ => exact hno
  | fallback _ hall =>
    obtain ⟨m, hm, rfl⟩ := mem_ids.mp hentry.1
    obtain ⟨e, he, ht⟩ := hall m hm
    exact absurd ht (hentry.2 e he)

/-- A diagram without a cycle whose edges leave nodes starts at an entry. If there is no other one,
a path leads from it to every node, so also to a gather node that the menu is extracted from. -/
theorem start_is_entry (hne : d.nodes ≠ []) (hsources : ∀ e ∈ d.edges, e.source ∈ d.ids)
    (hacyclic : d.Acyclic) :
    ∃ start, d.index.start? = some start ∧ start ∈ d.nodes ∧
      (∀ e ∈ d.edges, e.target ≠ start.id) ∧
      ((∃! entry, d.IsEntry entry) →
        (∀ id ∈ d.ids, d.index.path start.id id ≠ []) ∧
        ∀ anchorId g, d.anchor = .gather anchorId g → d.index.path start.id anchorId ≠ []) := by
  obtain ⟨start, hstarts⟩ := exists_startsAt hne
  have hstart : d.IsEntry start.id := by
    obtain ⟨entry, hentry, -⟩ := exists_entry_reaches hacyclic hsources hstarts.id_mem
    exact hstarts.isEntry hentry
  have hpath : (∃! entry, d.IsEntry entry) → ∀ id ∈ d.ids, d.index.path start.id id ≠ [] := by
    intro hone id hid
    obtain ⟨entry, hentry, hreach⟩ := exists_entry_reaches hacyclic hsources hid
    rw [hone.unique hentry hstart] at hreach
    exact path_ne_nil_iff.mpr ⟨hstarts.id_mem, hreach⟩
  rw [start?_index]
  exact ⟨start, start?_eq_some_iff.mpr hstarts, hstarts.mem, hstart.2, fun hone =>
    ⟨hpath hone, fun id g hanchor => hpath hone id (mem_ids_of_anchor_eq_gather hanchor)⟩⟩

end Diagram

/-- Two ways lead to the desk, and none back. -/
def porch : Diagram where
  nodes := [
    .ofStep "desk" (.forward ⟨some "1001", none, 30⟩),
    .ofStep "ask" (.gather ⟨.dtmf, 1, 1, 5, "#", [.ofBag [("key", .string "1")]]⟩),
    .ofStep "hello" .answer]
  edges := [
    ⟨"e1", "hello", "ask", none⟩,
    ⟨"e2", "ask", "desk", some "1"⟩,
    ⟨"e3", "ask", "gone", some "timeout"⟩,
    ⟨"e4", "hello", "desk", some "after hours"⟩]

theorem porch_start_is_entry :
    porch.nodes ≠ [] ∧ (∀ e ∈ porch.edges, e.source ∈ porch.ids) ∧ porch.Acyclic ∧
    (∃! entry, porch.IsEntry entry) ∧
    porch.index.start? = some (.ofStep "hello" .answer) ∧
    (∀ id ∈ porch.ids, porch.index.path "hello" id ≠ []) ∧
    porch.index.path "hello" "ask" ≠ [] := by
  have hne : porch.nodes ≠ [] := List.cons_ne_nil _ _
  have hsources : ∀ e ∈ porch.edges, e.source ∈ porch.ids := by decide
  have hacyclic : porch.Acyclic :=
    Diagram.acyclic_of_rank ["hello", "ask", "desk", "gone"].idxOf (by decide)
  have hone : ∃! entry, porch.IsEntry entry := by
    refine ⟨"hello", ⟨by decide, by decide⟩, ?_⟩
    rintro id ⟨hid, hno⟩
    obtain rfl | rfl | rfl : id = "desk" ∨ id = "ask" ∨ id = "hello" := by
      simpa [porch, Diagram.ids, Node.ofStep] using hid
    · exact absurd rfl (hno ⟨"e2", "ask", "desk", some "1"⟩ (by decide))
    · exact absurd rfl (hno ⟨"e1", "hello", "ask", none⟩ (by decide))
    · rfl
  obtain ⟨start, hstart, -, -, hpaths⟩ := Diagram.start_is_entry hne hsources hacyclic
  obtain rfl : start = .ofStep "hello" .answer :=
    Option.some.inj (hstart.symm.trans ((porch.start?_index).trans rfl))
  obtain ⟨hall, hanchor⟩ := hpaths hone
  exact ⟨hne, hsources, hacyclic, hone, hstart, hall, hanchor "ask" _ rfl⟩

end Switchboard
