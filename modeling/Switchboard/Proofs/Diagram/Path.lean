import Mathlib.Data.Set.Function
import Mathlib.Logic.Relation
import Switchboard.Diagram.Path

/-!
# Switchboard.Proofs.Diagram.Path

What a path search depends on. It looks at the edges of those ids only that it can reach, the ids
that it has not entered yet matter as a set, and what the ids are called does not matter:
`path_index_map` says that two diagrams give the same path, under other names, if the same edges
leave every id that is reached from its beginning, `path_index_congr` so for the same names.
-/

namespace Switchboard
namespace Diagram

variable {d d' : Diagram}

/-- Some edge leads from the one id to the other, whether or not nodes are there. -/
def Joins (d : Diagram) (source target : String) : Prop :=
  ∃ e ∈ d.edges, e.source = source ∧ e.target = target

/-- One can go from the one id to the other along the edges. -/
def Reaches (d : Diagram) : String → String → Prop := Relation.ReflTransGen d.Joins

theorem mem_successors {source target : String} :
    target ∈ d.successors source ↔ d.Joins source target := by
  simp [successors, outgoing, Joins, and_assoc]

theorem Reaches.refl (d : Diagram) (id : String) : d.Reaches id id := Relation.ReflTransGen.refl

theorem Reaches.step {source id target : String} (h : d.Reaches source id)
    (ht : target ∈ d.successors id) : d.Reaches source target :=
  Relation.ReflTransGen.tail h (mem_successors.mp ht)

/-- What is reached is the beginning or the end of an edge from something that is reached. -/
theorem Reaches.cases_last {source target : String} (h : d.Reaches source target) :
    target = source ∨ ∃ id, d.Reaches source id ∧ target ∈ d.successors id := by
  obtain rfl | ⟨id, hid, hlast⟩ := Relation.ReflTransGen.cases_tail h
  · exact .inl rfl
  · exact .inr ⟨id, hid, mem_successors.mpr hlast⟩

/-! ## One turn of a search -/

section

variable {next : String → List String} {goal id t : String} {fresh ts : List String}
variable {below : List PathFrame}

theorem mem_removeAll : id ∈ fresh.removeAll [t] ↔ id ∈ fresh ∧ id ≠ t := by
  simp [List.removeAll]

theorem searchPath_nil : searchPath next goal fresh [] = [] := by
  rw [searchPath.eq_def]

theorem searchPath_goal :
    searchPath next goal fresh ((goal, ts) :: below) = (goal :: below.map (·.1)).reverse := by
  rw [searchPath.eq_def]
  exact if_pos rfl

theorem searchPath_back (h : id ≠ goal) :
    searchPath next goal fresh ((id, []) :: below) = searchPath next goal fresh below := by
  rw [searchPath.eq_def]
  exact if_neg h

theorem searchPath_enter (h : id ≠ goal) (ht : t ∈ fresh) :
    searchPath next goal fresh ((id, t :: ts) :: below) =
      searchPath next goal (fresh.removeAll [t]) ((t, next t) :: (id, ts) :: below) := by
  rw [searchPath.eq_def]
  exact (if_neg h).trans (if_pos ht)

theorem searchPath_skip (h : id ≠ goal) (ht : t ∉ fresh) :
    searchPath next goal fresh ((id, t :: ts) :: below) =
      searchPath next goal fresh ((id, ts) :: below) := by
  rw [searchPath.eq_def]
  exact (if_neg h).trans (if_neg ht)

end

/-! ## Searches that go the same way -/

section

variable {next next' : String → List String} {S : Set String} {r : String → String} {goal : String}

/-- A search goes the same way under another name for each id. It only looks at a set of ids that
successors never leave, so it is enough that the names are different ones there. -/
theorem searchPath_map (hclosed : ∀ id ∈ S, ∀ t ∈ next id, t ∈ S)
    (hnext : ∀ id ∈ S, next' (r id) = (next id).map r) (hr : Set.InjOn r (insert goal S))
    (fresh : List String) (stack : List PathFrame) :
    ∀ fresh', (∀ id ∈ S, id ∈ fresh ↔ r id ∈ fresh') →
      (∀ frame ∈ stack, frame.1 ∈ S ∧ ∀ t ∈ frame.2, t ∈ S) →
      searchPath next' (r goal) fresh' (stack.map fun frame => (r frame.1, frame.2.map r)) =
        (searchPath next goal fresh stack).map r := by
  have hgoal : ∀ id ∈ S, id ≠ goal → r id ≠ r goal := fun id hid hne he =>
    hne (hr (Set.mem_insert_of_mem _ hid) (Set.mem_insert _ _) he)
  fun_induction searchPath next goal fresh stack with
  | case1 fresh =>
    intro fresh' _ _
    rw [List.map_nil, searchPath_nil, List.map_nil]
  | case2 fresh rest below =>
    intro fresh' _ _
    simp [searchPath_goal, Function.comp_def]
  | case3 fresh id below hid ih =>
    intro fresh' hfresh hstack
    obtain ⟨⟨hS, -⟩, hbelow⟩ := List.forall_mem_cons.mp hstack
    rw [List.map_cons, List.map_nil, searchPath_back (hgoal id hS hid)]
    exact ih fresh' hfresh hbelow
  | case4 fresh id below hid t ts ht ih =>
    -- The search enters `t`, which is in the set, and so are the successors of `t`.
    intro fresh' hfresh hstack
    obtain ⟨⟨hS, hts⟩, hbelow⟩ := List.forall_mem_cons.mp hstack
    obtain ⟨htS, hts⟩ := List.forall_mem_cons.mp hts
    rw [List.map_cons, List.map_cons, searchPath_enter (hgoal id hS hid) ((hfresh t htS).mp ht),
      hnext t htS]
    apply ih
    · intro i hi
      have hit : r i = r t ↔ i = t :=
        hr.eq_iff (Set.mem_insert_of_mem _ hi) (Set.mem_insert_of_mem _ htS)
      simp [List.removeAll, hfresh i hi, hit]
    · intro frame hframe
      obtain rfl | rfl | hmem := by simpa using hframe
      · exact ⟨htS, hclosed t htS⟩
      · exact ⟨hS, hts⟩
      · exact hbelow frame hmem
  | case5 fresh id below hid t ts ht ih =>
    -- `t` has been entered before, in both searches.
    intro fresh' hfresh hstack
    obtain ⟨⟨hS, hts⟩, hbelow⟩ := List.forall_mem_cons.mp hstack
    obtain ⟨htS, hts⟩ := List.forall_mem_cons.mp hts
    rw [List.map_cons, List.map_cons,
      searchPath_skip (hgoal id hS hid) fun h => ht ((hfresh t htS).mpr h)]
    exact ih fresh' hfresh (List.forall_mem_cons.mpr ⟨⟨hS, hts⟩, hbelow⟩)

/-- The path found stays in a set that the search does not leave. -/
theorem mem_of_mem_searchPath (hclosed : ∀ id ∈ S, ∀ t ∈ next id, t ∈ S) (fresh : List String)
    (stack : List PathFrame) (hstack : ∀ frame ∈ stack, frame.1 ∈ S ∧ ∀ t ∈ frame.2, t ∈ S) :
    ∀ id ∈ searchPath next goal fresh stack, id ∈ S := by
  fun_induction searchPath next goal fresh stack with
  | case1 fresh => simp
  | case2 fresh rest below =>
    intro id hid
    obtain ⟨rest', hmem⟩ | rfl := by simpa using hid
    · exact (hstack _ (List.mem_cons_of_mem _ hmem)).1
    · exact (hstack _ List.mem_cons_self).1
  | case3 fresh id below hid ih => exact ih (List.forall_mem_cons.mp hstack).2
  | case4 fresh id below hid t ts ht ih =>
    obtain ⟨⟨hS, hts⟩, hbelow⟩ := List.forall_mem_cons.mp hstack
    obtain ⟨htS, hts⟩ := List.forall_mem_cons.mp hts
    exact ih (List.forall_mem_cons.mpr
      ⟨⟨htS, hclosed t htS⟩, List.forall_mem_cons.mpr ⟨⟨hS, hts⟩, hbelow⟩⟩)
  | case5 fresh id below hid t ts ht ih =>
    obtain ⟨⟨hS, hts⟩, hbelow⟩ := List.forall_mem_cons.mp hstack
    exact ih (List.forall_mem_cons.mpr ⟨⟨hS, (List.forall_mem_cons.mp hts).2⟩, hbelow⟩)

end

/-! ## Paths -/

theorem path_index_eq (d : Diagram) (source goal : String) :
    d.index.path source goal =
      if d.hasNode source then
        searchPath d.successors goal ((d.edges.map (·.target)).removeAll [source])
          [(source, d.successors source)]
      else [] := by
  have hnext : d.index.successors = d.successors := funext d.successors_index
  rw [Index.path, hasNode_index, hnext]
  rfl

theorem firstFrame_reached (d : Diagram) (source : String) :
    ∀ frame ∈ [(source, d.successors source)],
      d.Reaches source frame.1 ∧ ∀ t ∈ frame.2, d.Reaches source t := by
  intro frame hframe
  obtain rfl := List.mem_singleton.mp hframe
  exact ⟨Reaches.refl d source, fun t ht => (Reaches.refl d source).step ht⟩

theorem reaches_of_mem_path {source goal id : String} (h : id ∈ d.index.path source goal) :
    d.Reaches source id := by
  rw [path_index_eq] at h
  split at h
  · exact mem_of_mem_searchPath (S := {id | d.Reaches source id})
      (fun _ hid _ ht => Reaches.step hid ht) _ _ (d.firstFrame_reached source) id h
  · exact absurd h List.not_mem_nil

/-- The path to a goal is the same, under other names, if the same edges leave all that is reached
on the way. -/
theorem path_index_map {source goal : String} (r : String → String)
    (hr : Set.InjOn r (insert goal {id | d.Reaches source id}))
    (hnode : d'.hasNode (r source) = d.hasNode source)
    (hnext : ∀ id, d.Reaches source id → d'.successors (r id) = (d.successors id).map r) :
    d'.index.path (r source) (r goal) = (d.index.path source goal).map r := by
  have hfresh : ∀ id, d.Reaches source id →
      (id ∈ (d.edges.map (·.target)).removeAll [source] ↔
        r id ∈ (d'.edges.map (·.target)).removeAll [r source]) := by
    intro id hid
    obtain rfl | ⟨before, hbefore, hlast⟩ := hid.cases_last
    · simp [List.removeAll]
    · -- Whatever is reached by an edge is a target in both diagrams.
      have hlast' : r id ∈ d'.successors (r before) := by
        rw [hnext before hbefore]
        exact List.mem_map_of_mem hlast
      obtain ⟨e, he, -, ht⟩ := mem_successors.mp hlast
      obtain ⟨e', he', -, ht'⟩ := mem_successors.mp hlast'
      have hmem : id ∈ d.edges.map (·.target) := List.mem_map.mpr ⟨e, he, ht⟩
      have hmem' : r id ∈ d'.edges.map (·.target) := List.mem_map.mpr ⟨e', he', ht'⟩
      have hsource : r id = r source ↔ id = source :=
        hr.eq_iff (Set.mem_insert_of_mem _ hid) (Set.mem_insert_of_mem _ (Reaches.refl d source))
      simp [List.removeAll, hmem, hmem', hsource]
  have hsearch := searchPath_map (S := {id | d.Reaches source id})
    (fun _ hid _ ht => Reaches.step hid ht) hnext hr _ [(source, d.successors source)] _ hfresh
    (d.firstFrame_reached source)
  rw [path_index_eq, path_index_eq, hnode, hnext source (Reaches.refl d source)]
  split
  · exact hsearch
  · rfl

/-- The path to a goal is the same if the same edges leave all that is reached on the way. -/
theorem path_index_congr {source : String} (goal : String)
    (hnode : d.hasNode source = d'.hasNode source)
    (hnext : ∀ id, d.Reaches source id → d.successors id = d'.successors id) :
    d.index.path source goal = d'.index.path source goal := by
  have hmap : d'.index.path source goal = (d.index.path source goal).map id :=
    path_index_map id Function.injective_id.injOn hnode.symm
      fun i hi => (hnext i hi).symm.trans (List.map_id _).symm
  rw [hmap, List.map_id]

end Diagram
end Switchboard
