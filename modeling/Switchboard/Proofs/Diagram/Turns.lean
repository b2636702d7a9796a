import Mathlib.Algebra.BigOperators.Group.Finset.Piecewise
import Mathlib.Algebra.Order.BigOperators.Group.Finset
import Switchboard.Proofs.Diagram.Path

/-!
# Switchboard.Proofs.Diagram.Turns

How many turns a path search takes. `searchWithin` is the search with the turns counted; it gives up
when they are used up. What a search still has to do, its own stack and one frame for each id that
it has not entered, is worth one less after every turn (`searchWithin_eq_some`). In a diagram two
turns for each edge and two more are enough (`Diagram.pathWithin_eq`).
-/

namespace Switchboard
namespace Diagram

/-- What a search gives if it ends within that many turns. -/
def searchWithin (next : String → List String) (goal : String) :
    Nat → List String → List PathFrame → Option (List String)
  | 0, _, _ => none
  | _ + 1, _, [] => some []
  | turns + 1, fresh, (id, rest) :: below =>
    if id = goal then some (id :: below.map (·.1)).reverse
    else
      match rest with
      | [] => searchWithin next goal turns fresh below
      | t :: ts =>
        if t ∈ fresh then
          searchWithin next goal turns (fresh.removeAll [t]) ((t, next t) :: (id, ts) :: below)
        else searchWithin next goal turns fresh ((id, ts) :: below)

section

variable {next : String → List String} {goal t : String} {fresh : List String}

/-- What a search has to do at the most: what is on its stack, and each id that it may still
enter. -/
def searchWork (next : String → List String) (fresh : List String) (stack : List PathFrame) : Nat :=
  pathWork stack + ∑ t ∈ fresh.toFinset, ((next t).length + 1)

theorem sum_removeAll (f : String → Nat) (ht : t ∈ fresh) :
    ∑ i ∈ (fresh.removeAll [t]).toFinset, f i + f t = ∑ i ∈ fresh.toFinset, f i := by
  have herase : (fresh.removeAll [t]).toFinset = fresh.toFinset.erase t := by
    ext i
    simp [mem_removeAll, and_comm]
  rw [herase]
  exact Finset.sum_erase_add _ f (List.mem_toFinset.mpr ht)

theorem searchWithin_eq_some {stack : List PathFrame} {turns : Nat}
    (h : searchWork next fresh stack < turns) :
    searchWithin next goal turns fresh stack = some (searchPath next goal fresh stack) := by
  fun_induction searchPath next goal fresh stack generalizing turns with
  | case1 fresh =>
    cases turns with
    | zero => omega
    | succ turns => rfl
  | case2 fresh rest below =>
    cases turns with
    | zero => omega
    | succ turns => simp [searchWithin]
  | case3 fresh id below hid ih =>
    cases turns with
    | zero => omega
    | succ turns =>
      simp only [searchWithin, if_neg hid]
      apply ih
      simp only [searchWork, pathWork, List.length_nil] at h ⊢
      omega
  | case4 fresh id below hid t ts ht ih =>
    cases turns with
    | zero => omega
    | succ turns =>
      simp only [searchWithin, if_neg hid, if_pos ht]
      apply ih
      -- What `t` was worth as an id to be entered, its frame is worth on the stack.
      have hsum := sum_removeAll (fun i => (next i).length + 1) ht
      simp only [searchWork, pathWork, List.length_cons] at h hsum ⊢
      omega
  | case5 fresh id below hid t ts ht ih =>
    cases turns with
    | zero => omega
    | succ turns =>
      simp only [searchWithin, if_neg hid, if_neg ht]
      apply ih
      simp only [searchWork, pathWork, List.length_cons] at h ⊢
      omega

end

/-! ## In a diagram -/

theorem sum_length_filter_le (es : List Edge) (s : Finset String) :
    ∑ i ∈ s, (es.filter (·.source == i)).length ≤ es.length := by
  induction es with
  | nil => simp
  | cons e es ih =>
    have hcons : ∀ i, ((e :: es).filter (·.source == i)).length =
        (if e.source = i then 1 else 0) + (es.filter (·.source == i)).length := by
      intro i
      by_cases h : e.source = i
      · simp [h, Nat.add_comm]
      · simp [h]
    -- Every edge leaves one id.
    have hone : ∑ i ∈ s, (if e.source = i then 1 else 0) ≤ 1 := by
      rw [Finset.sum_ite_eq]
      split <;> omega
    simp only [hcons, Finset.sum_add_distrib, List.length_cons]
    omega

theorem sum_length_successors_le (d : Diagram) (s : Finset String) :
    ∑ i ∈ s, (d.successors i).length ≤ d.edges.length := by
  simpa [successors, outgoing] using sum_length_filter_le d.edges s

/-- A search enters each id once and follows each edge once. -/
theorem searchWork_le {d : Diagram} {source : String} {fresh : List String}
    (hsource : source ∉ fresh) (hlength : fresh.length ≤ d.edges.length) :
    searchWork d.successors fresh [(source, d.successors source)] ≤ 2 * d.edges.length + 1 := by
  have hcard : fresh.toFinset.card ≤ fresh.length := List.toFinset_card_le fresh
  have hedges := d.sum_length_successors_le (insert source fresh.toFinset)
  rw [Finset.sum_insert (by simpa using hsource)] at hedges
  have hsum : ∑ i ∈ fresh.toFinset, ((d.successors i).length + 1) =
      ∑ i ∈ fresh.toFinset, (d.successors i).length + fresh.toFinset.card := by
    rw [Finset.sum_add_distrib, Finset.card_eq_sum_ones]
  simp only [searchWork, hsum, pathWork]
  omega

/-- The path found from the node `source` to `goal` if the search ends within that many turns. -/
def pathWithin (d : Diagram) (turns : Nat) (source goal : String) : Option (List String) :=
  if d.hasNode source then
    searchWithin d.successors goal turns ((d.edges.map (·.target)).removeAll [source])
      [(source, d.successors source)]
  else some []

/-- A search for a path ends after two turns for each edge and two more. -/
theorem pathWithin_eq {d : Diagram} {turns : Nat} (h : 2 * d.edges.length + 2 ≤ turns)
    (source goal : String) : d.pathWithin turns source goal = some (d.index.path source goal) := by
  rw [pathWithin, path_index_eq]
  split
  · have hsource : source ∉ (d.edges.map (·.target)).removeAll [source] := by
      simp [mem_removeAll]
    have hlength : ((d.edges.map (·.target)).removeAll [source]).length ≤ d.edges.length :=
      (List.length_filter_le _ _).trans_eq (List.length_map _)
    have hwork := searchWork_le hsource hlength
    exact searchWithin_eq_some (by omega)
  · rfl

end Diagram
end Switchboard
