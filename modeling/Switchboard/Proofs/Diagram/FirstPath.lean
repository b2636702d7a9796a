import Switchboard.Proofs.Diagram.Search

/-!
# Switchboard.Proofs.Diagram.FirstPath

Which path a search finds. `Diagram.simplePaths` lists all simple paths, in the order in which a
search comes to them that remembers nothing but the path it is on. The search that enters no id
twice finds the first of them: what it gave up before an edge could not have led to the goal with
the same ids in front (`Trail.head?_simplePaths`), and so it parts from every other simple path by
an earlier edge (`Trail.prefix_or_before`).
-/

namespace Switchboard
namespace Diagram

variable {d : Diagram} {source goal id t : String} {ids : List String}

/-- The simple paths that go on from an id to the goal over ids of `fresh`, each edge tried in its
order. -/
def simplePathsFrom (d : Diagram) (goal : String) (fresh : List String) (id : String) :
    List (List String) :=
  if id = goal then [[id]]
  else
    (d.successors id).flatMap fun t =>
      if t ∈ fresh then (d.simplePathsFrom goal (fresh.removeAll [t]) t).map (id :: ·) else []
termination_by fresh.length
decreasing_by exact length_removeAll_lt ‹_›

/-- All simple paths from `source` to `goal`, as exhaustive backtracking finds them. -/
def simplePaths (d : Diagram) (source goal : String) : List (List String) :=
  d.simplePathsFrom goal ((d.edges.map (·.target)).removeAll [source]) source

/-- Where the two lists of ids part, the first one takes the target of an earlier edge. -/
inductive Before (d : Diagram) : List String → List String → Prop where
  | part (common : List String) {id t t' : String} {rest rest' : List String} :
      (d.successors id).idxOf t < (d.successors id).idxOf t' →
      Before d (common ++ id :: t :: rest) (common ++ id :: t' :: rest')

/-! ## Simple paths, edge by edge -/

theorem SimplePath.singleton (d : Diagram) (goal : String) : d.SimplePath goal goal [goal] :=
  ⟨rfl, rfl, List.nodup_singleton _, List.isChain_singleton _⟩

theorem SimplePath.cons (h : d.SimplePath t goal ids) (hjoins : d.Joins id t) (hid : id ∉ ids) :
    d.SimplePath id goal (id :: ids) := by
  obtain ⟨rest, rfl⟩ := List.head?_eq_some_iff.mp h.head?_eq
  exact ⟨rfl, List.getLast?_cons_cons.trans h.getLast?_eq, List.nodup_cons.mpr ⟨hid, h.nodup⟩,
    List.isChain_cons_cons.mpr ⟨hjoins, h.joined⟩⟩

/-- A simple path is its goal alone, or an edge and a simple path from there. -/
theorem SimplePath.cases_head (h : d.SimplePath source goal ids) :
    (source = goal ∧ ids = [goal]) ∨
      ∃ t rest, source ≠ goal ∧ d.Joins source t ∧ source ∉ t :: rest ∧
        d.SimplePath t goal (t :: rest) ∧ ids = source :: t :: rest := by
  obtain ⟨rest, rfl⟩ := List.head?_eq_some_iff.mp h.head?_eq
  cases rest with
  | nil =>
    obtain rfl : source = goal := by simpa using h.getLast?_eq
    exact .inl ⟨rfl, rfl⟩
  | cons t rest =>
    obtain ⟨hjoins, hjoined⟩ := List.isChain_cons_cons.mp h.joined
    obtain ⟨hnot, hnodup⟩ := List.nodup_cons.mp h.nodup
    have hlast := h.getLast?_eq
    rw [List.getLast?_cons_cons] at hlast
    refine .inr ⟨t, rest, ?_, hjoins, hnot, ⟨rfl, hlast, hnodup, hjoined⟩, rfl⟩
    rintro rfl
    exact hnot (List.mem_of_getLast? hlast)

theorem tail_subset_targets (hjoined : ids.IsChain d.Joins) :
    ids.tail ⊆ d.edges.map (·.target) := by
  induction ids with
  | nil => exact List.nil_subset _
  | cons i ids ih =>
    cases ids with
    | nil => exact List.nil_subset _
    | cons t ids =>
      obtain ⟨⟨e, he, -, ht⟩, hjoined⟩ := List.isChain_cons_cons.mp hjoined
      exact List.cons_subset.mpr ⟨List.mem_map.mpr ⟨e, he, ht⟩, ih hjoined⟩

theorem SimplePath.tail_subset (h : d.SimplePath source goal ids) :
    ids.tail ⊆ (d.edges.map (·.target)).removeAll [source] := by
  obtain ⟨rest, rfl⟩ := List.head?_eq_some_iff.mp h.head?_eq
  intro i hi
  refine mem_removeAll.mpr ⟨tail_subset_targets h.joined hi, ?_⟩
  rintro rfl
  exact (List.nodup_cons.mp h.nodup).1 hi

/-! ## Exhaustive backtracking -/

theorem simplePathsFrom_goal (d : Diagram) (goal : String) (fresh : List String) :
    d.simplePathsFrom goal fresh goal = [[goal]] := by
  rw [simplePathsFrom, if_pos rfl]

theorem mem_simplePathsFrom_of_ne {fresh : List String} (h : id ≠ goal) :
    ids ∈ d.simplePathsFrom goal fresh id ↔
      ∃ t, d.Joins id t ∧ t ∈ fresh ∧
        ∃ p ∈ d.simplePathsFrom goal (fresh.removeAll [t]) t, ids = id :: p := by
  rw [simplePathsFrom, if_neg h, List.mem_flatMap]
  refine exists_congr fun t => ?_
  rw [mem_successors]
  split
  · simp [*, eq_comm]
  · simp [*]

/-- Backtracking finds all simple paths that stay in `fresh` after their first id, and no others. -/
theorem mem_simplePathsFrom {fresh : List String} (hid : id ∉ fresh) :
    ids ∈ d.simplePathsFrom goal fresh id ↔ d.SimplePath id goal ids ∧ ids.tail ⊆ fresh := by
  induction fresh, id using simplePathsFrom.induct goal generalizing ids with
  | case1 fresh =>
    rw [simplePathsFrom_goal, List.mem_singleton]
    constructor
    · rintro rfl
      exact ⟨.singleton d goal, List.nil_subset _⟩
    · rintro ⟨hsimple, -⟩
      obtain ⟨-, rfl⟩ | ⟨_, _, hne, -⟩ := hsimple.cases_head
      · rfl
      · exact absurd rfl hne
  | case2 fresh id hgoal ih =>
    -- Each successor goes on over the ids that are left without it, and so never comes back.
    have hout : ∀ t, t ∉ fresh.removeAll [t] := by simp [mem_removeAll]
    rw [mem_simplePathsFrom_of_ne hgoal]
    constructor
    · rintro ⟨t, hjoins, ht, p, hp, rfl⟩
      obtain ⟨hsimple, htail⟩ := (ih t ht (hout t)).mp hp
      obtain ⟨rest, rfl⟩ := List.head?_eq_some_iff.mp hsimple.head?_eq
      have hfresh : t :: rest ⊆ fresh :=
        List.cons_subset.mpr ⟨ht, fun i hi => (mem_removeAll.mp (htail hi)).1⟩
      exact ⟨hsimple.cons hjoins fun hmem => hid (hfresh hmem), hfresh⟩
    · rintro ⟨hsimple, htail⟩
      obtain ⟨hsame, -⟩ | ⟨t, rest, -, hjoins, -, hrest, rfl⟩ := hsimple.cases_head
      · exact absurd hsame hgoal
      · obtain ⟨ht, htail⟩ := List.cons_subset.mp htail
        refine ⟨t, hjoins, ht, t :: rest, (ih t ht (hout t)).mpr ⟨hrest, fun i hi => ?_⟩, rfl⟩
        have hne : i ≠ t := by
          rintro rfl
          exact (List.nodup_cons.mp hrest.nodup).1 hi
        simp [mem_removeAll, htail hi, hne]

theorem mem_simplePaths : ids ∈ d.simplePaths source goal ↔ d.SimplePath source goal ids := by
  rw [simplePaths, mem_simplePathsFrom (by simp [mem_removeAll])]
  exact and_iff_left_of_imp SimplePath.tail_subset

theorem simplePathsFrom_eq_nil {path fresh : List String} (h : ¬ d.Open goal path t)
    (ht : t ∈ fresh) (hfresh : ∀ i ∈ fresh, i ∉ path) :
    d.simplePathsFrom goal (fresh.removeAll [t]) t = [] := by
  rw [List.eq_nil_iff_forall_not_mem]
  intro ids hids
  obtain ⟨hsimple, htail⟩ := (mem_simplePathsFrom (by simp [mem_removeAll])).mp hids
  obtain ⟨rest, rfl⟩ := List.head?_eq_some_iff.mp hsimple.head?_eq
  refine h (open_of_isChain hsimple.joined hsimple.getLast?_eq ?_)
  intro i hi
  obtain rfl | hi := List.mem_cons.mp hi
  · exact hfresh _ ht
  · exact hfresh i (mem_removeAll.mp (htail hi)).1

/-- Backtracking finds nothing by way of ids that are spent, and so comes to the next one. -/
theorem head?_simplePathsFrom {path fresh tried rest p : List String} (hid : id ≠ goal)
    (hnext : d.successors id = tried ++ t :: rest) (htried : d.Spent goal path tried)
    (hfresh : ∀ i ∈ fresh, i ∉ path) (ht : t ∈ fresh)
    (hp : (d.simplePathsFrom goal (fresh.removeAll [t]) t).head? = some p) :
    (d.simplePathsFrom goal fresh id).head? = some (id :: p) := by
  -- What was tried before `t` adds no path.
  have hnone : tried.findSome? (fun t' => (if t' ∈ fresh then
      (d.simplePathsFrom goal (fresh.removeAll [t']) t').map (id :: ·) else []).head?) = none := by
    rw [List.findSome?_eq_none_iff]
    intro t' ht'
    split
    · next hmem =>
      rw [simplePathsFrom_eq_nil (htried t' ht') hmem hfresh]
      rfl
    · rfl
  rw [simplePathsFrom, if_neg hid, hnext, List.head?_flatMap, List.findSome?_append, hnone,
    Option.none_or, List.findSome?_cons, if_pos ht, List.head?_map, hp]
  rfl

/-! ## The first path -/

theorem Trail.head?_simplePaths {below : List PathFrame} (h : d.Trail source goal id below) :
    ∃ fresh, (∀ i, i ∈ fresh ↔ i ∈ d.edges.map (·.target) ∧ i ∉ id :: below.map (·.1)) ∧
      ∀ p, (d.simplePathsFrom goal fresh id).head? = some p →
        (d.simplePaths source goal).head? = some ((below.map (·.1)).reverse ++ p) := by
  induction h with
  | start => exact ⟨_, fun i => by simp [mem_removeAll], fun p hp => hp⟩
  | @enter id t tried rest below _ hgoal hnext htried ht ih =>
    obtain ⟨fresh, hfresh, hfirst⟩ := ih
    have hjoins : t ∈ d.successors id := by simp [hnext]
    obtain ⟨e, he, -, rfl⟩ := mem_successors.mp hjoins
    have hmem : e.target ∈ fresh := (hfresh _).mpr ⟨List.mem_map_of_mem he, ht⟩
    refine ⟨fresh.removeAll [e.target], fun i => ?_, fun p hp => ?_⟩
    · rw [mem_removeAll, hfresh, List.mem_cons (b := e.target)]
      tauto
    · have hsplit := head?_simplePathsFrom hgoal hnext htried (fun i hi => ((hfresh i).mp hi).2)
        hmem hp
      simpa using hfirst _ hsplit

theorem idxOf_lt_of_not_mem {tried : List String} {t' : String} (htried : t' ∉ tried)
    (hne : t' ≠ t) (rest : List String) :
    (tried ++ t :: rest).idxOf t < (tried ++ t :: rest).idxOf t' := by
  have ht : (tried ++ t :: rest).idxOf t ≤ tried.length := by
    rw [List.idxOf_append]
    split
    · exact List.idxOf_le_length
    · simp
  have ht' : (tried ++ t :: rest).idxOf t' = tried.length + (rest.idxOf t' + 1) := by
    rw [List.idxOf_append_of_notMem htried, List.idxOf_cons_ne _ (Ne.symm hne)]
  omega

/-- A simple path goes along a trail, or it parts from it where the trail takes an earlier edge. -/
theorem Trail.prefix_or_before {below : List PathFrame} (h : d.Trail source goal id below)
    (hids : d.SimplePath source goal ids) :
    (∃ rest, ids = (below.map (·.1)).reverse ++ id :: rest) ∨
      ∀ rest, d.Before ((below.map (·.1)).reverse ++ id :: rest) ids := by
  induction h with
  | start => exact .inl (List.head?_eq_some_iff.mp hids.head?_eq)
  | @enter id t tried rest below _ hgoal hnext htried ht ih =>
    obtain ⟨others, rfl⟩ | hbefore := ih
    · cases others with
      | nil => exact absurd (by simpa using hids.getLast?_eq) hgoal
      | cons t' others =>
        by_cases hsame : t' = t
        · subst hsame
          exact .inl ⟨others, by simp⟩
        · -- The trail tried all in front of `t`, and `t'` leads to the goal.
          have hopen : d.Open goal (id :: below.map (·.1)) t' := by
            have hopen : d.Open goal ((below.map (·.1)).reverse ++ [id]) t' :=
              SimplePath.open_rest (by simpa using hids)
            exact hopen.mono fun i hi => by simpa [or_comm] using hi
          have hlt := idxOf_lt_of_not_mem (fun hmem => htried t' hmem hopen) hsame rest
          rw [← hnext] at hlt
          refine .inr fun rest' => ?_
          simpa using Before.part (below.map (·.1)).reverse hlt
    · exact .inr fun rest' => by simpa using hbefore (t :: rest')

theorem before_of_ne_path (h : d.index.path source goal ≠ []) (hids : d.SimplePath source goal ids)
    (hne : ids ≠ d.index.path source goal) : d.Before (d.index.path source goal) ids := by
  obtain ⟨below, htrail, hpath⟩ := exists_trail_of_path_ne_nil h
  rw [List.reverse_cons] at hpath
  obtain ⟨rest, rfl⟩ | hbefore := htrail.prefix_or_before hids
  · -- A simple path ends where it comes to the goal.
    obtain ⟨-, hgoal⟩ | ⟨_, _, hno, -⟩ := hids.right_of_append.cases_head
    · exact absurd (by rw [hpath, hgoal]) hne
    · exact absurd rfl hno
  · rw [hpath]
    exact hbefore []

theorem head?_simplePaths (h : d.index.path source goal ≠ []) :
    (d.simplePaths source goal).head? = some (d.index.path source goal) := by
  obtain ⟨below, htrail, hpath⟩ := exists_trail_of_path_ne_nil h
  obtain ⟨fresh, -, hfirst⟩ := htrail.head?_simplePaths
  rw [hpath, List.reverse_cons]
  exact hfirst [goal] (by rw [simplePathsFrom_goal]; rfl)

/-- What was given up does not matter: a path that is found is the one that exhaustive backtracking
over all simple paths finds first, and it parts from every other one by an earlier edge. -/
theorem path_first (h : d.index.path source goal ≠ []) :
    (d.simplePaths source goal).head? = some (d.index.path source goal) ∧
    (∀ ids, ids ∈ d.simplePaths source goal ↔ d.SimplePath source goal ids) ∧
    ∀ ids, d.SimplePath source goal ids → ids ≠ d.index.path source goal →
      d.Before (d.index.path source goal) ids :=
  ⟨head?_simplePaths h, fun _ => mem_simplePaths, fun _ => before_of_ne_path h⟩

end Diagram

/-- There is a shorter way out of the maze, but its edge comes later. -/
theorem maze_path_first :
    maze.index.path "in" "out" ≠ [] ∧
    (maze.simplePaths "in" "out").head? = some ["in", "bridge", "out"] ∧
    maze.SimplePath "in" "out" ["in", "out"] ∧
    maze.Before ["in", "bridge", "out"] ["in", "out"] := by
  have hne : maze.index.path "in" "out" ≠ [] := by simp [maze_path]
  obtain ⟨hfirst, -, hbefore⟩ := Diagram.path_first hne
  rw [maze_path] at hfirst hbefore
  have hjoins : maze.Joins "in" "out" := ⟨⟨"e8", "in", "out", none⟩, by decide, rfl, rfl⟩
  have hshort : maze.SimplePath "in" "out" ["in", "out"] :=
    (Diagram.SimplePath.singleton maze "out").cons hjoins (by decide)
  exact ⟨hne, hfirst, hshort, hbefore _ hshort (by decide)⟩

end Switchboard
