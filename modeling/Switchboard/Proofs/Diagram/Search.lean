import Mathlib.Data.List.Chain
import Mathlib.Data.List.Nodup
import Switchboard.Proofs.Diagram.Lookup
import Switchboard.Proofs.Diagram.Turns

/-!
# Switchboard.Proofs.Diagram.Search

What a path search finds. Ids that were entered and left again are never tried a second time, and
nothing is lost by it: from such an id one cannot come to the goal without meeting the path that the
search is on (`Diagram.Open` says when one can). Each turn of the search keeps this, the path itself
and what was tried along it (`Searching.back`, `Searching.enter`, `Searching.skip`), so that the
search ends on a path, or there is none (`searchPath_spec`).

* `Diagram.path_ne_nil_iff`: a path is found from nodes, if the goal can be reached.
* `Diagram.path_found`: what is found is a simple path.
-/

namespace Switchboard
namespace Diagram

variable {d : Diagram} {source goal id t : String} {path : List String}

/-- A path along the edges from `source` to `goal` that meets no id twice. -/
structure SimplePath (d : Diagram) (source goal : String) (ids : List String) : Prop where
  head?_eq : ids.head? = some source
  getLast?_eq : ids.getLast? = some goal
  nodup : ids.Nodup
  joined : ids.IsChain d.Joins

theorem SimplePath.right_of_append {before after : List String}
    (h : d.SimplePath source goal (before ++ id :: after)) : d.SimplePath id goal (id :: after) where
  head?_eq := rfl
  getLast?_eq := by
    have hlast := h.getLast?_eq
    rwa [List.getLast?_append_of_ne_nil _ (List.cons_ne_nil _ _)] at hlast
  nodup := (List.nodup_append.mp h.nodup).2.1
  joined := h.joined.right_of_append

/-! ## Ways around a path -/

/-- From the id one can go to the goal along the edges without meeting the path. -/
inductive Open (d : Diagram) (goal : String) (path : List String) : String → Prop where
  | here : goal ∉ path → Open d goal path goal
  | step {id t : String} : id ∉ path → t ∈ d.successors id → Open d goal path t →
      Open d goal path id

theorem Open.not_mem (h : d.Open goal path id) : id ∉ path := by
  cases h <;> assumption

theorem Open.mono {path' : List String} (h : d.Open goal path id) (hsub : path' ⊆ path) :
    d.Open goal path' id := by
  induction h with
  | here hgoal => exact .here fun hmem => hgoal (hsub hmem)
  | step hid ht _ ih => exact .step (fun hmem => hid (hsub hmem)) ht ih

theorem open_nil_iff : d.Open goal [] id ↔ d.Reaches id goal := by
  constructor
  · intro h
    induction h with
    | here _ => exact .refl d _
    | step _ ht _ ih => exact Relation.ReflTransGen.head (mem_successors.mp ht) ih
  · intro h
    induction h using Relation.ReflTransGen.head_induction_on with
    | refl => exact .here List.not_mem_nil
    | head hjoins _ ih => exact .step List.not_mem_nil (mem_successors.mpr hjoins) ih

/-- A way around a path meets the id that comes next on the path, or it does not; if it does, it
goes on from there to a successor that is itself open. -/
theorem Open.around {last : String} (h : d.Open goal path id) (hlast : last ≠ goal) :
    d.Open goal (last :: path) id ∨ ∃ t ∈ d.successors last, d.Open goal (last :: path) t := by
  induction h with
  | here hgoal => exact .inl (.here (by simp [hgoal, Ne.symm hlast]))
  | @step id t hid ht _ ih =>
    obtain hopen | hnext := ih
    · by_cases he : id = last
      · subst he
        exact .inr ⟨t, ht, hopen⟩
      · exact .inl (.step (by simp [hid, he]) ht hopen)
    · exact .inr hnext

theorem open_of_isChain {rest : List String} (hjoined : (id :: rest).IsChain d.Joins)
    (hlast : (id :: rest).getLast? = some goal) (hoff : ∀ i ∈ id :: rest, i ∉ path) :
    d.Open goal path id := by
  induction rest generalizing id with
  | nil =>
    cases hlast
    exact .here (hoff _ List.mem_cons_self)
  | cons t rest ih =>
    obtain ⟨hjoins, hjoined⟩ := List.isChain_cons_cons.mp hjoined
    rw [List.getLast?_cons_cons] at hlast
    refine .step (hoff id List.mem_cons_self) (mem_successors.mpr hjoins) (ih hjoined hlast ?_)
    exact (List.forall_mem_cons.mp hoff).2

/-- The rest of a simple path is a way around what comes before. -/
theorem SimplePath.open_rest {before after : List String}
    (h : d.SimplePath source goal (before ++ id :: after)) : d.Open goal before id := by
  apply open_of_isChain h.right_of_append.joined h.right_of_append.getLast?_eq
  intro i hi hbefore
  exact (List.nodup_append.mp h.nodup).2.2 i hbefore i hi rfl

/-! ## What a search keeps -/

/-- The ids were tried and lead to the goal by no way around the path. -/
def Spent (d : Diagram) (goal : String) (path tried : List String) : Prop :=
  ∀ t ∈ tried, ¬ d.Open goal path t

/-- How a search came along the frames below to an id: from each of them it took a target that was
not on the path yet, after all targets before that one had been tried. -/
inductive Trail (d : Diagram) (source goal : String) : String → List PathFrame → Prop where
  | start : Trail d source goal source []
  | enter {id t : String} {tried rest : List String} {below : List PathFrame} :
      Trail d source goal id below → id ≠ goal → d.successors id = tried ++ t :: rest →
      d.Spent goal (id :: below.map (·.1)) tried → t ∉ id :: below.map (·.1) →
      Trail d source goal t ((id, rest) :: below)

/-- Where a search stands: nowhere, if there is no way to the goal, or on a trail. -/
inductive Stands (d : Diagram) (source goal : String) : List PathFrame → Prop where
  | nowhere : ¬ d.Reaches source goal → Stands d source goal []
  | trail {id : String} {tried rest : List String} {below : List PathFrame} :
      Trail d source goal id below → d.successors id = tried ++ rest →
      d.Spent goal (id :: below.map (·.1)) tried → Stands d source goal ((id, rest) :: below)

/-- A search that has not missed anything. -/
structure Searching (d : Diagram) (source goal : String) (fresh : List String)
    (stack : List PathFrame) : Prop where
  stands : d.Stands source goal stack
  /-- What is on the path has been entered. -/
  entered : ∀ i ∈ stack.map (·.1), i ∉ fresh
  /-- What has been entered is on the path or leads to it only. -/
  spent : ∀ i, ∀ t ∈ d.successors i, t ∉ fresh → ¬ d.Open goal (stack.map (·.1)) t

theorem Trail.nodup {below : List PathFrame} (h : d.Trail source goal id below) :
    (id :: below.map (·.1)).Nodup := by
  induction h with
  | start => exact List.nodup_singleton _
  | enter _ _ _ _ ht ih => exact List.nodup_cons.mpr ⟨ht, ih⟩

theorem Trail.simplePath {below : List PathFrame} (h : d.Trail source goal id below) :
    d.SimplePath source id (id :: below.map (·.1)).reverse where
  head?_eq := by
    rw [List.head?_reverse]
    induction h with
    | start => rfl
    | enter _ _ _ _ _ ih => exact ih
  getLast?_eq := by simp
  nodup := List.nodup_reverse.mpr h.nodup
  joined := by
    rw [List.isChain_reverse]
    induction h with
    | start => exact List.isChain_singleton _
    | enter _ _ hnext _ _ ih =>
      refine List.isChain_cons_cons.mpr ⟨mem_successors.mp ?_, ih⟩
      rw [hnext]
      exact List.mem_append_right _ List.mem_cons_self

namespace Searching

variable {fresh ts : List String} {below : List PathFrame}

theorem start (d : Diagram) (source goal : String) :
    d.Searching source goal ((d.edges.map (·.target)).removeAll [source])
      [(source, d.successors source)] where
  stands := .trail .start (List.nil_append _).symm fun _ ht => absurd ht List.not_mem_nil
  entered := by simp [mem_removeAll]
  spent i t ht hfresh := by
    obtain ⟨e, he, -, rfl⟩ := mem_successors.mp ht
    have hsource : e.target = source := by
      by_contra hne
      exact hfresh (by simp [mem_removeAll, hne, List.mem_map_of_mem he])
    exact fun hopen => hopen.not_mem (by simp [hsource])

/-- All targets of an id were tried, so it is spent itself, as is all that leads to it only. -/
theorem back (h : d.Searching source goal fresh ((id, []) :: below)) (hid : id ≠ goal) :
    d.Searching source goal fresh below := by
  obtain ⟨hstands, hentered, hspent⟩ := h
  cases hstands with
  | @trail _ tried _ _ htrail hnext htried =>
    rw [List.append_nil] at hnext
    -- A way that meets `id` goes on to a target of `id`, and those were tried.
    have hshut : ∀ i, ¬ d.Open goal (id :: below.map (·.1)) i →
        ¬ d.Open goal (below.map (·.1)) i := by
      intro i hi hopen
      obtain hopen | ⟨t, ht, hopen⟩ := hopen.around hid
      · exact hi hopen
      · exact htried t (hnext ▸ ht) hopen
    have hself : ¬ d.Open goal (below.map (·.1)) id :=
      hshut id fun hopen => hopen.not_mem List.mem_cons_self
    refine ⟨?_, fun i hi => hentered i (List.mem_cons_of_mem _ hi),
      fun i t ht hfresh => hshut t (hspent i t ht hfresh)⟩
    cases htrail with
    | start => exact .nowhere fun hreach => hself (open_nil_iff.mpr hreach)
    | @enter prev _ before rest below hprev _ hsplit hbefore _ =>
      refine .trail hprev (hsplit.trans (List.append_cons _ _ _)) ?_
      intro t ht
      obtain ht | rfl : t ∈ before ∨ t = id := by simpa using ht
      · exact hbefore t ht
      · exact hself

theorem enter (h : d.Searching source goal fresh ((id, t :: ts) :: below)) (hid : id ≠ goal)
    (ht : t ∈ fresh) :
    d.Searching source goal (fresh.removeAll [t]) ((t, d.successors t) :: (id, ts) :: below) := by
  obtain ⟨hstands, hentered, hspent⟩ := h
  cases hstands with
  | trail htrail hnext htried =>
    have hnew : t ∉ id :: below.map (·.1) := fun hmem => hentered t hmem ht
    refine ⟨?_, ?_, ?_⟩
    · exact .trail (htrail.enter hid hnext htried hnew) (List.nil_append _).symm
        fun _ h => absurd h List.not_mem_nil
    · intro i hi hfresh
      obtain ⟨hfresh, hne⟩ : i ∈ fresh ∧ i ≠ t := mem_removeAll.mp hfresh
      exact hentered i ((List.mem_cons.mp hi).resolve_left hne) hfresh
    · intro i t' ht' hfresh hopen
      -- What was entered before `t` is shut off by a shorter path already; `t` is on the path.
      obtain hfresh | rfl : t' ∉ fresh ∨ t' = t := by
        by_contra hno
        exact hfresh (by simpa [mem_removeAll] using hno)
      · exact hspent i t' ht' hfresh (hopen.mono (List.subset_cons_self _ _))
      · exact hopen.not_mem List.mem_cons_self

theorem skip (h : d.Searching source goal fresh ((id, t :: ts) :: below)) (ht : t ∉ fresh) :
    d.Searching source goal fresh ((id, ts) :: below) := by
  obtain ⟨hstands, hentered, hspent⟩ := h
  cases hstands with
  | @trail _ tried _ _ htrail hnext htried =>
    refine ⟨.trail htrail (hnext.trans (List.append_cons _ _ _)) ?_, hentered, hspent⟩
    intro t' ht'
    obtain ht' | rfl : t' ∈ tried ∨ t' = t := by simpa using ht'
    · exact htried t' ht'
    · exact hspent id t' (by simp [hnext]) ht

end Searching

/-! ## What a search finds -/

/-- Either there is no way to the goal, and the search finds nothing, or it finds the path that it
is on when it comes to the goal. -/
theorem searchPath_spec {fresh : List String} {stack : List PathFrame}
    (h : d.Searching source goal fresh stack) :
    (¬ d.Reaches source goal ∧ searchPath d.successors goal fresh stack = []) ∨
      ∃ below, d.Trail source goal goal below ∧
        searchPath d.successors goal fresh stack = (goal :: below.map (·.1)).reverse := by
  fun_induction searchPath d.successors goal fresh stack with
  | case1 fresh =>
    cases h.stands with
    | nowhere hno => exact .inl ⟨hno, rfl⟩
  | case2 fresh rest below =>
    cases h.stands with
    | trail htrail _ _ => exact .inr ⟨below, htrail, rfl⟩
  | case3 fresh id below hid ih => exact ih (h.back hid)
  | case4 fresh id below hid t ts ht ih => exact ih (h.enter hid ht)
  | case5 fresh id below hid t ts ht ih => exact ih (h.skip ht)

theorem path_spec (h : source ∈ d.ids) (goal : String) :
    (¬ d.Reaches source goal ∧ d.index.path source goal = []) ∨
      ∃ below, d.Trail source goal goal below ∧
        d.index.path source goal = (goal :: below.map (·.1)).reverse := by
  rw [path_index_eq, if_pos (hasNode_iff.mpr h)]
  exact searchPath_spec (.start d source goal)

theorem mem_ids_of_path_ne_nil (h : d.index.path source goal ≠ []) : source ∈ d.ids := by
  by_contra hno
  rw [path_index_eq, if_neg (by rwa [hasNode_iff])] at h
  exact h rfl

theorem exists_trail_of_path_ne_nil (h : d.index.path source goal ≠ []) :
    ∃ below, d.Trail source goal goal below ∧
      d.index.path source goal = (goal :: below.map (·.1)).reverse := by
  obtain ⟨-, hnil⟩ | hfound := path_spec (mem_ids_of_path_ne_nil h) goal
  · exact absurd hnil h
  · exact hfound

theorem simplePath_path (h : d.index.path source goal ≠ []) :
    d.SimplePath source goal (d.index.path source goal) := by
  obtain ⟨below, htrail, hpath⟩ := exists_trail_of_path_ne_nil h
  rw [hpath]
  exact htrail.simplePath

theorem path_ne_nil_iff :
    d.index.path source goal ≠ [] ↔ source ∈ d.ids ∧ d.Reaches source goal := by
  constructor
  · intro h
    have hlast := List.mem_of_getLast? (simplePath_path h).getLast?_eq
    exact ⟨mem_ids_of_path_ne_nil h, reaches_of_mem_path hlast⟩
  · rintro ⟨hsource, hreach⟩
    obtain ⟨hno, -⟩ | ⟨below, -, hpath⟩ := path_spec hsource goal
    · exact absurd hreach hno
    · simp [hpath]

/-- A search for a path ends, finds one from nodes just if the goal can be reached along the edges,
and what it finds is a simple path. -/
theorem path_found {turns : Nat} (h : 2 * d.edges.length + 2 ≤ turns) (source goal : String) :
    d.pathWithin turns source goal = some (d.index.path source goal) ∧
    (d.index.path source goal ≠ [] ↔ source ∈ d.ids ∧ d.Reaches source goal) ∧
    (d.index.path source goal ≠ [] → d.SimplePath source goal (d.index.path source goal)) :=
  ⟨pathWithin_eq h source goal, path_ne_nil_iff, simplePath_path⟩

end Diagram

/-- The search leaves a cycle and a dead end and goes over an id without a node. -/
def maze : Diagram where
  nodes := [.ofStep "in" .answer, .ofStep "round" .answer, .ofStep "out" .answer]
  edges := [
    ⟨"e1", "in", "in", none⟩,
    ⟨"e2", "in", "round", none⟩,
    ⟨"e3", "round", "in", none⟩,
    ⟨"e4", "round", "end", none⟩,
    ⟨"e5", "in", "bridge", none⟩,
    ⟨"e6", "bridge", "round", none⟩,
    ⟨"e7", "bridge", "out", none⟩,
    ⟨"e8", "in", "out", none⟩]

theorem maze_path : maze.index.path "in" "out" = ["in", "bridge", "out"] := by
  have hturns : 2 * maze.edges.length + 2 ≤ 18 := by decide
  exact Option.some.inj ((Diagram.pathWithin_eq hturns "in" "out").symm.trans (by decide))

theorem maze_path_found :
    2 * maze.edges.length + 2 ≤ 18 ∧
    maze.pathWithin 18 "in" "out" = some ["in", "bridge", "out"] ∧
    maze.SimplePath "in" "out" ["in", "bridge", "out"] ∧
    ¬ maze.Reaches "out" "in" := by
  have hturns : 2 * maze.edges.length + 2 ≤ 18 := by decide
  obtain ⟨hends, -, hsimple⟩ := Diagram.path_found hturns "in" "out"
  obtain ⟨hendsBack, hiffBack, -⟩ := Diagram.path_found hturns "out" "in"
  rw [maze_path] at hends hsimple
  have hback : maze.index.path "out" "in" = [] :=
    Option.some.inj (hendsBack.symm.trans (by decide))
  refine ⟨hturns, hends, hsimple (List.cons_ne_nil _ _), fun hreach => ?_⟩
  exact hiffBack.mpr ⟨by decide, hreach⟩ hback

end Switchboard
