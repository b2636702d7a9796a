import Std.Data.String.ToNat
import Switchboard.Proofs.Diagram.Counts
import Switchboard.Proofs.Job.Selection
import Switchboard.Proofs.Number.Text
import Switchboard.Proofs.Text.Cut

/-!
# Switchboard.Proofs.Job.Counts

The counts of an artifact, wherever one stands: in a state of a flow, in a line of a dialplan, or as
the timeout of a menu. None of them is zero, unless a property of some node holds a number between
zero and one half.

* `Line.mem_counts_of_sets`: the counts in a line are those of the action that it is made from.
* `Job.counts_set`: where every count of a node comes from, and that artifacts hold no zero.
* `small_number_sets_zero`: a property that sets a count to zero.
-/

namespace Switchboard

/-- The node is read from properties, and none that it reads as a count is between zero and one
half. -/
def Node.CountsWhole (n : Node) : Prop :=
  ∃ bag, n.step = .ofBag (.ofTag n.tag) bag ∧
    ∀ field ∈ (Family.ofTag n.tag).countFields, ∀ v x, bag.get? field.1 = some v → v.Reads x →
      0 < x.value → 1 / 2 ≤ x.value

def CloudAction.counts : CloudAction → List Nat
  | .gather timeout _ digits _ => [timeout, digits]
  | .connect timeout _ _ => [timeout]
  | .record length _ _ _ _ => [length]
  | _ => []

def PbxAction.counts : PbxAction → List Nat
  | .gather timeout _ least most => [least, most, timeout]
  | .record length _ _ => [length]
  | _ => []

/-- The counts that the PBX reads in a line. -/
inductive Line.Sets : Line → Nat → Prop where
  | digits {least most timeout k : Nat} {rest : String} : k ∈ [least, most, timeout] →
      Sets (.application "play_and_get_digits" (some (least.repr ++ " " ++ most.repr ++ " 3 " ++
        timeout.repr ++ " " ++ rest))) k
  | record {length : Nat} :
      Sets (.application "record" (some (recordingPath ++ " " ++ length.repr ++ " 200 5"))) length

/-- The counts of an artifact of the compilation. -/
inductive Artifact.Sets (j : Job) : Artifact → Nat → Prop where
  | cloud {f : CloudFlow} {s : State CloudAction} {k : Nat} :
      s ∈ f.states.values → k ∈ s.action.counts → Sets j (.cloud f) k
  | pbx {f : PbxFlow} {xml : String} {s : State PbxAction} {k : Nat} :
      s ∈ f.states.values → k ∈ s.action.counts → Sets j (.dialplan f xml) k
  | line {f : PbxFlow} {l : Line} {k : Nat} :
      l ∈ (j.dialplanOf f).lines → l.Sets k → Sets j (.dialplan f (j.dialplanOf f).xml) k
  | menu {m : Menu} {rows : MenuRows} : Sets j (.menu m rows) m.timeout

/-! ## Steps -/

theorem Family.default_ne_zero (f : Family) : ∀ field ∈ f.countFields, field.2 ≠ some 0 := by
  cases f <;> decide

theorem Bag.SetsCount.ne_zero {bag : Bag} {name : String} {default c : Option Nat}
    (h : bag.SetsCount name default c) (hdefault : default ≠ some 0)
    (hwhole : ∀ v x, bag.get? name = some v → v.Reads x → 0 < x.value → 1 / 2 ≤ x.value) :
    c ≠ some 0 := by
  by_cases hread : ∃ v x, bag.get? name = some v ∧ v.Reads x ∧ 0 < x.value
  · obtain ⟨v, x, hv, hreads, hpos⟩ := hread
    rw [h.set v x hv hreads (hwhole v x hv hreads hpos), Ne, Option.some.injEq]
    omega
  · rwa [h.unset]
    intro v x hv hreads
    exact not_lt.mp fun hpos => hread ⟨v, x, hv, hreads, hpos⟩

theorem Node.CountsWhole.zero_not_mem {n : Node} (h : n.CountsWhole) : some 0 ∉ n.step.counts := by
  obtain ⟨bag, hstep, hwhole⟩ := h
  rw [hstep]
  intro hzero
  obtain ⟨i, hi, hget⟩ := List.getElem_of_mem hzero
  obtain ⟨hlength, hcounts⟩ := List.forall₂_iff_get.mp (Step.counts_read n.tag bag)
  have hi' : i < (Family.ofTag n.tag).countFields.length := hlength ▸ hi
  have hmem := List.getElem_mem hi'
  exact (hcounts i hi' hi).ne_zero (Family.default_ne_zero _ _ hmem) (hwhole _ hmem) hget

/-! ## Actions -/

theorem toMilliseconds_ne_zero {k : Nat} (h : k ≠ 0) : toMilliseconds k ≠ 0 := by
  rw [toMilliseconds, maxCount]
  omega

namespace Step

variable {s : Step} {tag : String} (h : some 0 ∉ s.counts)
include h

theorem zero_not_mem_cloudAction {o : Options} : 0 ∉ (s.cloudAction o tag).counts := by
  cases s with
  | gather g =>
    simp only [counts, List.mem_cons, Option.some.injEq, List.not_mem_nil, or_false, not_or] at h
    obtain ⟨-, hmax, htimeout⟩ := h
    simp only [cloudAction, CloudAction.counts, List.mem_cons, List.not_mem_nil, or_false, not_or]
    exact ⟨htimeout, hmax⟩
  | forward f => simpa [counts, cloudAction, CloudAction.counts] using h
  | record r => simpa [counts, cloudAction, CloudAction.counts] using h
  | play p => cases hm : p.message <;> simp [cloudAction, CloudAction.counts, hm]
  | answer | hangUp | sms | menu | other => simp [cloudAction, CloudAction.counts]

theorem zero_not_mem_pbxAction : 0 ∉ (s.pbxAction tag).counts := by
  cases s with
  | gather g =>
    simp only [counts, List.mem_cons, Option.some.injEq, List.not_mem_nil, or_false, not_or] at h
    obtain ⟨hmin, hmax, htimeout⟩ := h
    have hmilliseconds := toMilliseconds_ne_zero (Ne.symm htimeout)
    simp only [pbxAction, PbxAction.counts, List.mem_cons, List.not_mem_nil, or_false, not_or]
    omega
  | record r => simpa [counts, pbxAction, PbxAction.counts] using h
  | play p => cases hm : p.message <;> simp [pbxAction, PbxAction.counts, hm]
  | answer | forward | hangUp | sms | menu | other => simp [pbxAction, PbxAction.counts]

end Step

theorem OrderedMap.mem_values_of_get? {α : Type} {m : OrderedMap α} {key : String} {v : α}
    (h : m.get? key = some v) : v ∈ m.values :=
  List.mem_map_of_mem ((mem_iff_lookup m.nodup).mpr h)

theorem States.Translates.exists_of_mem_values {α : Type} {states : States α} {d : Diagram}
    {action : Node → α} (h : states.Translates d action) {s : State α} (hs : s ∈ states.values) :
    ∃ n ∈ d.nodes, s.action = action n := by
  rw [OrderedMap.values_eq_filterMap] at hs
  obtain ⟨id, -, hid⟩ := List.mem_filterMap.mp hs
  rw [h id] at hid
  obtain ⟨n, hn, rfl⟩ := Option.map_eq_some_iff.mp hid
  exact ⟨n, List.mem_of_find?_eq_some hn, rfl⟩

/-! ## Lines -/

theorem blank_not_mem_repr (n : Nat) : ' ' ∉ n.repr.toList := by
  rw [Nat.repr_eq_ofList_toDigits, String.toList_ofList]
  exact fun h => (isNumeral_of_mem_toDigits h).ne_blank rfl

/-- A count ends at the blank after it. -/
theorem repr_blank_inj {m n : Nat} {s t : List Char}
    (h : m.repr.toList ++ ' ' :: s = n.repr.toList ++ ' ' :: t) : m = n ∧ s = t := by
  have hfront := congrArg (List.takeWhile (· ≠ ' ')) h
  have hrest := congrArg (List.dropWhile (· ≠ ' ')) h
  rw [Text.takeWhile_ne_append_cons (blank_not_mem_repr m),
    Text.takeWhile_ne_append_cons (blank_not_mem_repr n), String.toList_inj] at hfront
  rw [Text.dropWhile_ne_append_cons (blank_not_mem_repr m),
    Text.dropWhile_ne_append_cons (blank_not_mem_repr n)] at hrest
  exact ⟨Nat.repr_inj.mp hfront, List.tail_eq_of_cons_eq hrest⟩

theorem Line.Sets.exists_data {l : Line} {k : Nat} (h : l.Sets k) :
    ∃ data, l = .application "play_and_get_digits" data ∨ l = .application "record" data := by
  cases h with
  | digits _ => exact ⟨_, .inl rfl⟩
  | record => exact ⟨_, .inr rfl⟩

/-- What the PBX reads in the line of an action is what the action says. -/
theorem Line.mem_counts_of_sets {domain : String} {a : PbxAction} {k : Nat}
    (h : (ofAction domain a).Sets k) : k ∈ a.counts := by
  have hblank : " ".toList = [' '] := rfl
  have htries : " 3 ".toList = [' ', '3', ' '] := rfl
  generalize hl : ofAction domain a = l at h
  cases h with
  | @digits least most timeout _ rest hk =>
    cases a with
    | gather timeout' key least' most' =>
      simp only [ofAction, application.injEq, Option.some.injEq, true_and] at hl
      have hchars := congrArg String.toList hl
      simp only [String.toList_append, hblank, htries, List.append_assoc, List.cons_append,
        List.nil_append] at hchars
      obtain ⟨hleast, hafterLeast⟩ := repr_blank_inj hchars
      obtain ⟨hmost, hafterMost⟩ := repr_blank_inj hafterLeast
      obtain ⟨htimeout, -⟩ := repr_blank_inj (List.cons.inj (List.cons.inj hafterMost).2).2
      rw [PbxAction.counts, hleast, hmost, htimeout]
      exact hk
    | connect number => cases number <;> simp [ofAction] at hl
    | _ => simp [ofAction] at hl
  | record =>
    cases a with
    | record length key beep =>
      simp only [ofAction, application.injEq, Option.some.injEq, true_and, String.append_left_inj,
        String.append_right_inj, Nat.repr_inj] at hl
      exact List.mem_singleton.mpr hl.symm
    | connect number => cases number <;> simp [ofAction] at hl
    | _ => simp [ofAction] at hl

/-! ## Artifacts -/

theorem Diagram.menuNode?_of_anchor_eq_menu {d : Diagram} {id : String} {s : MenuSettings}
    (h : d.anchor = .menu id s) : d.menuNode? = some (id, s) := by
  rw [anchor] at h
  cases hmenu : d.menuNode? with
  | some found =>
    rw [hmenu] at h
    cases h
    rfl
  | none =>
    rw [hmenu] at h
    cases hgather : d.gatherNode? <;> simp [hgather] at h

namespace Job

variable {j : Job} {target : Target} {r : Option Routing} {a : Artifact}

theorem compile_eq_ok_cases (h : j.compile target r = .ok a) :
    (∃ f, j.cloudFlow = .ok f ∧ a = .cloud f) ∨
    (∃ f, j.pbxFlow r = .ok f ∧ a = .dialplan f (j.dialplanOf f).xml) ∨
    a = j.menuArtifact (j.menuFor r) := by
  have hdialplan (h : j.dialplanArtifact r = .ok a) :
      ∃ f, j.pbxFlow r = .ok f ∧ a = .dialplan f (j.dialplanOf f).xml := by
    rw [dialplanArtifact] at h
    cases hf : j.pbxFlow r with
    | error e => simp [hf] at h
    | ok f =>
      rw [hf] at h
      exact ⟨f, rfl, (Except.ok.inj h).symm⟩
  unfold compile at h
  split at h
  · cases h
  · cases target with
    | cloud =>
      cases hf : j.cloudFlow with
      | error e => simp [hf] at h
      | ok f =>
        simp only [hf, Except.ok.injEq] at h
        exact .inl ⟨f, rfl, h.symm⟩
    | dialplan => exact .inr (.inl (hdialplan h))
    | menu => exact .inr (.inr (Except.ok.inj h).symm)
    | auto =>
      simp only at h
      split at h
      · exact .inr (.inr (Except.ok.inj h).symm)
      · exact .inr (.inl (hdialplan h))

/-- The lines that a dialplan begins and ends with hold no counts. -/
theorem exists_action_of_sets {f : PbxFlow} {l : Line} {k : Nat} (hl : l ∈ (j.dialplanOf f).lines)
    (hk : l.Sets k) : ∃ s ∈ f.states.values, k ∈ s.action.counts := by
  obtain ⟨data, hname⟩ := hk.exists_data
  simp only [dialplanOf, Dialplan.ofFlow, List.mem_append, List.mem_cons, List.not_mem_nil,
    or_false, List.mem_map] at hl
  obtain (rfl | rfl) | ⟨s, hs, rfl⟩ | rfl := or_assoc.mp hl
  · simp at hname
  · simp at hname
  · exact ⟨s, hs, Line.mem_counts_of_sets hk⟩
  · simp at hname

section

variable (h : ∀ n ∈ j.diagram.nodes, n.CountsWhole)
include h

theorem zero_not_mem_cloudFlow {f : CloudFlow} (hf : j.cloudFlow = .ok f)
    {s : State CloudAction} (hs : s ∈ f.states.values) : 0 ∉ s.action.counts := by
  obtain ⟨start, hstart, rfl⟩ := cloudFlow_eq_ok_iff.mp hf
  obtain ⟨n, hn, haction⟩ := (translates_cloudFlowFrom hstart.id_mem).exists_of_mem_values hs
  rw [haction]
  exact Step.zero_not_mem_cloudAction (h n hn).zero_not_mem

theorem zero_not_mem_pbxFlow {f : PbxFlow} (hf : j.pbxFlow r = .ok f)
    {s : State PbxAction} (hs : s ∈ f.states.values) : 0 ∉ s.action.counts := by
  obtain ⟨start, -, rfl⟩ := pbxFlow_eq_ok_iff.mp hf
  obtain ⟨n, hn, haction⟩ := (translates_pbxFlowFrom start.id).exists_of_mem_values hs
  rw [haction]
  exact Step.zero_not_mem_pbxAction (h n hn).zero_not_mem

theorem timeout_extractMenu_ne_zero (extension context : String) :
    (j.extractMenu extension context).timeout ≠ 0 := by
  rw [extractMenu_eq]
  cases hanchor : j.diagram.anchor with
  | none =>
    show defaultMenuTimeout ≠ 0
    decide
  | gather id g =>
    obtain ⟨before, n, -, hn⟩ := Diagram.anchor_eq_gather_iff.mp hanchor
    obtain ⟨after, hnodes⟩ := hn.nodes_eq
    have hzero := (h n (by simp [hnodes])).zero_not_mem
    rw [hn.step_eq] at hzero
    simp only [Step.counts, List.mem_cons, Option.some.injEq, not_or] at hzero
    exact toMilliseconds_ne_zero (Ne.symm hzero.2.2.1)
  | menu id s =>
    obtain ⟨before, n, after, hnodes, -, hstep, -⟩ :=
      Diagram.menuNode?_eq_some_iff.mp (Diagram.menuNode?_of_anchor_eq_menu hanchor)
    have hzero := (h n (by simp [hnodes])).zero_not_mem
    rw [hstep] at hzero
    simp only [Step.counts, List.mem_singleton] at hzero
    show s.timeout.getD defaultMenuTimeout ≠ 0
    cases ht : s.timeout with
    | none => decide
    | some k =>
      rw [ht] at hzero
      exact fun hk => hzero (congrArg some hk.symm)

end

/-- Every count of a node is read from its property or is the default of it, and where no property
holds a number between zero and one half, no artifact holds a zero. -/
theorem counts_set (id tag : String) (bag : Bag) (j : Job) (target : Target) (r : Option Routing) :
    List.Forall₂ (fun field c => bag.SetsCount field.1 field.2 c) (Family.ofTag tag).countFields
      (Node.ofBag id tag bag).step.counts ∧
    ((∀ n ∈ j.diagram.nodes, n.CountsWhole) → ∀ a, j.compile target r = .ok a →
      ∀ k, a.Sets j k → 1 ≤ k) := by
  refine ⟨Step.counts_read tag bag, fun h a ha k hk => ?_⟩
  rw [Nat.one_le_iff_ne_zero]
  rintro rfl
  obtain ⟨f, hf, rfl⟩ | ⟨f, hf, rfl⟩ | rfl := compile_eq_ok_cases ha
  · cases hk with
    | cloud hs hk => exact zero_not_mem_cloudFlow h hf hs hk
  · cases hk with
    | pbx hs hk => exact zero_not_mem_pbxFlow h hf hs hk
    | line hl hk =>
      obtain ⟨s, hs, hk⟩ := exists_action_of_sets hl hk
      exact zero_not_mem_pbxFlow h hf hs hk
  · generalize ht : (0 : Nat) = t at hk
    cases hk
    exact timeout_extractMenu_ne_zero h _ _ ht.symm

end Job

def waiting (timeout : Binary64) : Job where
  diagram := ⟨[.ofBag "ask" "gather-input" [("timeout", .number (.float timeout))]], []⟩
  name := "Waiting"
  options := .default

/-- The node has one property, so only that can be what is read as a count. -/
theorem waiting_countsWhole {timeout : Binary64} (h : 1 / 2 ≤ timeout.value) :
    ∀ n ∈ (waiting timeout).diagram.nodes, n.CountsWhole := by
  rintro n hn
  obtain rfl := List.mem_singleton.mp hn
  refine ⟨[("timeout", .number (.float timeout))], rfl, ?_⟩
  rintro ⟨name, default⟩ - v x hv hreads -
  rw [Bag.get?, lookup_cons_eq_ite] at hv
  split at hv
  · cases hv
    cases hreads
    exact h
  · cases hv

/-- Two seconds and a half are rounded up. -/
theorem waiting_counts_set :
    let half : Binary64 := ⟨false, 5 * 2 ^ 50, -51⟩
    (Node.ofBag "ask" "gather-input" [("timeout", .number (.float half))]).step.counts =
      [some 1, some 10, some 3] ∧
    ∀ a, (waiting half).compile .auto none = .ok a → ∀ k, a.Sets (waiting half) k → 1 ≤ k := by
  intro half
  have hvalue : half.value = 5 / 2 := by
    norm_num [half, Binary64.value, Binary64.sign]
  have hhalf : 1 / 2 ≤ half.value := by
    rw [hvalue]
    norm_num
  have hround : round half.value = 3 := by
    rw [hvalue, round_eq]
    norm_num
  obtain ⟨hcounts, hsets⟩ := Job.counts_set "ask" "gather-input"
    [("timeout", .number (.float half))] (waiting half) .auto none
  constructor
  · obtain _ | ⟨hmin, _ | ⟨hmax, _ | ⟨htimeout, -⟩⟩⟩ := hcounts
    have hone := hmin.unset fun v x hv => by cases hv
    have hten := hmax.unset fun v x hv => by cases hv
    have hthree := htimeout.set _ half rfl (.float half) hhalf
    rw [hround] at hthree
    exact congrArg₂ List.cons hone (congrArg₂ List.cons hten (congrArg₂ List.cons hthree rfl))
  · exact hsets (waiting_countsWhole hhalf)

/-- A quarter of a second is above zero, but it sets the timeout to zero, and the flow with it. -/
theorem small_number_sets_zero :
    let quarter : Binary64 := ⟨false, 2 ^ 52, -54⟩
    (quarter.Canonical ∧ quarter.value = 1 / 4 ∧ (Json.number (.float quarter)).Reads quarter) ∧
    (∃ n, (waiting quarter).diagram.nodes = [n] ∧ n.step.counts = [some 1, some 10, some 0]) ∧
    ∃ a, (waiting quarter).compile .cloud none = .ok a ∧ a.Sets (waiting quarter) 0 := by
  intro quarter
  have hvalue : quarter.value = 1 / 4 := by
    norm_num [quarter, Binary64.value, Binary64.sign]
  have hcanonical : quarter.Canonical := ⟨by decide, by decide, by decide, .inl (by decide)⟩
  have hstart : (waiting quarter).diagram.StartsAt
      (.ofBag "ask" "gather-input" [("timeout", .number (.float quarter))]) :=
    Diagram.start?_eq_some_iff.mp rfl
  have hstate := Job.translates_cloudFlowFrom hstart.id_mem "ask"
  refine ⟨⟨hcanonical, hvalue, .float quarter⟩, ⟨_, rfl, by decide⟩, _,
    Job.compile_cloud_of_startsAt hstart, .cloud (OrderedMap.mem_values_of_get? hstate) ?_⟩
  decide

end Switchboard
