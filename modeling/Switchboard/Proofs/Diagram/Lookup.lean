import Switchboard.Diagram.Lookup

/-!
# Switchboard.Proofs.Diagram.Lookup

What the scans of a diagram find, said of its two lists: `node?_eq_some_iff` for the first node of
an id, `start?_eq_some_iff` for the node where calls begin, and `next?_eq_bind` and
`exit?_eq_bind` for the edge that an outcome takes.
-/

namespace Switchboard
namespace Diagram

theorem mem_ids {d : Diagram} {id : String} : id ∈ d.ids ↔ ∃ n ∈ d.nodes, n.id = id :=
  List.mem_map

theorem hasNode_iff {d : Diagram} {id : String} : d.hasNode id = true ↔ id ∈ d.ids := by
  rw [hasNode, List.any_eq_true, mem_ids]
  simp

/-- The first node of an id is the one before which no node has the id. -/
theorem node?_eq_some_iff {d : Diagram} {id : String} {n : Node} :
    d.node? id = some n ↔
      n.id = id ∧ ∃ before after, d.nodes = before ++ n :: after ∧ ∀ m ∈ before, m.id ≠ id := by
  rw [node?, List.find?_eq_some_iff_append]
  simp

theorem node?_eq_none_iff {d : Diagram} {id : String} : d.node? id = none ↔ id ∉ d.ids := by
  rw [← hasNode_iff, ← isSome_node?]
  cases d.node? id <;> simp

theorem exists_node? {d : Diagram} {id : String} (h : id ∈ d.ids) : ∃ n, d.node? id = some n := by
  rw [← Option.isSome_iff_exists, isSome_node?, hasNode_iff]
  exact h

theorem mem_ids_of_node? {d : Diagram} {id : String} {n : Node} (h : d.node? id = some n) :
    id ∈ d.ids := by
  rw [← hasNode_iff, ← isSome_node?, h]
  rfl

theorem id_mem_of_node? {d : Diagram} {id : String} {n : Node} (h : d.node? id = some n) :
    n.id ∈ d.ids := by
  rw [id_of_node? h]
  exact mem_ids_of_node? h

/-! ## The start -/

/-- `n` is the node where calls begin: the first one that no edge leads to, or, if edges lead to
all nodes, the first one. -/
inductive StartsAt (d : Diagram) (n : Node) : Prop where
  | entry {before after : List Node} :
      d.nodes = before ++ n :: after → (∀ e ∈ d.edges, e.target ≠ n.id) →
      (∀ m ∈ before, ∃ e ∈ d.edges, e.target = m.id) → StartsAt d n
  | fallback {after : List Node} :
      d.nodes = n :: after → (∀ m ∈ d.nodes, ∃ e ∈ d.edges, e.target = m.id) → StartsAt d n

theorem isTarget_eq_true {d : Diagram} {id : String} :
    d.isTarget id = true ↔ ∃ e ∈ d.edges, e.target = id := by
  simp [isTarget]

theorem isTarget_eq_false {d : Diagram} {id : String} :
    d.isTarget id = false ↔ ∀ e ∈ d.edges, e.target ≠ id := by
  simp [isTarget]

theorem start?_eq_some_iff {d : Diagram} {n : Node} : d.start? = some n ↔ d.StartsAt n := by
  constructor
  · intro h
    rw [start?] at h
    cases hf : d.nodes.find? (fun m => !d.isTarget m.id) with
    | some m =>
      rw [hf] at h
      cases h
      obtain ⟨hn, before, after, hnodes, hbefore⟩ := List.find?_eq_some_iff_append.mp hf
      refine .entry hnodes (isTarget_eq_false.mp (by simpa using hn)) ?_
      intro m hm
      exact isTarget_eq_true.mp (by simpa using hbefore m hm)
    | none =>
      rw [hf] at h
      obtain ⟨after, hnodes⟩ := List.head?_eq_some_iff.mp h
      refine .fallback hnodes ?_
      intro m hm
      exact isTarget_eq_true.mp (by simpa using List.find?_eq_none.mp hf m hm)
  · intro h
    rw [start?]
    cases h with
    | @entry before after hnodes hn hbefore =>
      have hf : d.nodes.find? (fun m => !d.isTarget m.id) = some n := by
        rw [List.find?_eq_some_iff_append]
        refine ⟨by simpa using isTarget_eq_false.mpr hn, before, after, hnodes, ?_⟩
        intro m hm
        simpa using isTarget_eq_true.mpr (hbefore m hm)
      rw [hf]
      rfl
    | @fallback after hnodes hall =>
      have hf : d.nodes.find? (fun m => !d.isTarget m.id) = none := by
        rw [List.find?_eq_none]
        intro m hm
        simpa using isTarget_eq_true.mpr (hall m hm)
      rw [hf, hnodes]
      rfl

theorem StartsAt.mem {d : Diagram} {n : Node} (h : d.StartsAt n) : n ∈ d.nodes := by
  cases h with
  | entry hnodes _ _ => simp [hnodes]
  | fallback hnodes _ => simp [hnodes]

theorem StartsAt.id_mem {d : Diagram} {n : Node} (h : d.StartsAt n) : n.id ∈ d.ids :=
  mem_ids.mpr ⟨n, h.mem, rfl⟩

theorem StartsAt.unique {d : Diagram} {m n : Node} (hm : d.StartsAt m) (hn : d.StartsAt n) :
    m = n := by
  rw [← start?_eq_some_iff] at hm hn
  exact Option.some.inj (hm.symm.trans hn)

theorem start?_eq_none_iff {d : Diagram} : d.start? = none ↔ d.nodes = [] := by
  have h := d.isSome_start?
  rw [isEmpty] at h
  cases hs : d.start? with
  | none => simpa [hs] using h
  | some n => simpa [hs] using h

theorem exists_startsAt {d : Diagram} (h : d.nodes ≠ []) : ∃ n, d.StartsAt n := by
  cases hs : d.start? with
  | none => exact absurd (start?_eq_none_iff.mp hs) h
  | some n => exact ⟨n, start?_eq_some_iff.mp hs⟩

/-! ## The edge that an outcome takes -/

theorem targetOf?_eq_some_iff {d : Diagram} {e : Edge} {target : String} :
    d.targetOf? e = some target ↔ e.target = target ∧ target ∈ d.ids := by
  unfold targetOf?
  split
  · rename_i h
    rw [Option.some.injEq]
    constructor
    · rintro rfl
      exact ⟨rfl, hasNode_iff.mp h⟩
    · exact fun h => h.1
  · rename_i h
    constructor
    · intro hn
      cases hn
    · rintro ⟨rfl, hm⟩
      exact absurd (hasNode_iff.mpr hm) h

theorem next?_eq_bind (d : Diagram) (id : String) :
    d.next? id = (d.edges.find? (·.source == id)).bind d.targetOf? := by
  rw [next?, outgoing, List.head?_filter]

theorem exit?_eq_bind (d : Diagram) (id label : String) :
    d.exit? id label =
      (d.edges.find? fun e => e.source == id && e.label == some label).bind d.targetOf? := by
  rw [exit?, outgoing, List.find?_filter]
  simp only [Bool.decide_and, Bool.decide_eq_true]

end Diagram
end Switchboard
