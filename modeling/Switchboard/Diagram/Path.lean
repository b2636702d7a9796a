import Switchboard.Diagram.Index

/-!
# Switchboard.Diagram.Path

Depth-first search for a path along the edges of a diagram. The search keeps the current path as a
stack; each id on it remembers the targets that are still to be tried from there. An id is entered
at most once in a search, so cycles end.

`fresh` holds the ids that have not been entered yet. Every turn either takes an id out of it or
shortens what is left to try, which is why the search ends.
-/

namespace Switchboard
namespace Diagram

/-- An id on the current path and the targets still to be tried from it. -/
abbrev PathFrame := String × List String

/-- What a stack still has to try. -/
def pathWork : List PathFrame → Nat
  | [] => 0
  | (_, rest) :: below => rest.length + 1 + pathWork below

theorem length_removeAll_lt {t : String} {fresh : List String} (h : t ∈ fresh) :
    (fresh.removeAll [t]).length < fresh.length := by
  rw [List.removeAll, List.length_filter_lt_length_iff_exists]
  exact ⟨t, h, by simp⟩

/-- Goes on with a search. `stack` is the current path, its last id first. -/
def searchPath (successors : String → List String) (goal : String)
    (fresh : List String) (stack : List PathFrame) : List String :=
  match stack with
  | [] => []
  | (id, rest) :: below =>
    if id = goal then (id :: below.map (·.1)).reverse
    else
      match rest with
      | [] => searchPath successors goal fresh below
      | t :: ts =>
        if t ∈ fresh then
          searchPath successors goal (fresh.removeAll [t])
            ((t, successors t) :: (id, ts) :: below)
        else searchPath successors goal fresh ((id, ts) :: below)
termination_by (fresh.length, pathWork stack)
decreasing_by
  · exact Prod.Lex.right _ (by simp [pathWork])
  · exact Prod.Lex.left _ _ (length_removeAll_lt ‹_›)
  · exact Prod.Lex.right _ (by simp [pathWork])

end Diagram

/-- The first path found from the node `source` to `goal`, both ends included; empty if there is no
such node or no such path. Edges are followed in order, also through ids without a node. -/
def Index.path (g : Index) (source goal : String) : List String :=
  if g.hasNode source then
    Diagram.searchPath g.successors goal
      ((g.diagram.edges.map (·.target)).removeAll [source]) [(source, g.successors source)]
  else []

end Switchboard
