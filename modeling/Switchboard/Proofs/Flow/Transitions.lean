import Mathlib.Data.Finset.Card
import Switchboard.Flow.Transitions
import Switchboard.Proofs.OrderedMap

/-!
# Switchboard.Proofs.Flow.Transitions

Transitions that are set by one call after another. An outcome stands where its first call has put
it and leads where its last call says (`LastCall`), also if that is nowhere; a call for an outcome
that is there changes nothing else.

* `Transitions.outcomes_set`, `Transitions.target?_set`: a single call.
* `Transitions.pairwise_outcomes_ofCalls`: the order of the outcomes, by induction on the calls.
* `Transitions.calls_recorded`: calls in any number and order (`Transitions.Records`).
-/

namespace Switchboard

/-- Sets an outcome to lead to a target, or nowhere. -/
abbrev Call := String × Option String

/-- The last call for the outcome gives it this target. -/
def LastCall (calls : List Call) (outcome : String) (target : Option String) : Prop :=
  ∃ before after, calls = before ++ (outcome, target) :: after ∧ ∀ c ∈ after, c.1 ≠ outcome

namespace Transitions

def ofCalls (calls : List Call) : Transitions :=
  calls.foldl (fun t c => t.set c.1 c.2) empty

/-- What transitions are after these calls, and what a call for an outcome that is there does. -/
structure Records (t : Transitions) (calls : List Call) : Prop where
  mem_outcomes : ∀ outcome, outcome ∈ t.outcomes ↔ ∃ c ∈ calls, c.1 = outcome
  /-- No outcome is there twice, and what was first called for comes first. -/
  order : t.outcomes.Pairwise fun a b =>
    (calls.map (·.1)).idxOf a < (calls.map (·.1)).idxOf b
  defines : ∀ outcome, t.defines outcome = true ↔ ∃ c ∈ calls, c.1 = outcome
  last : ∀ outcome target, LastCall calls outcome target → t.target? outcome = target
  unknown : ∀ outcome, (∀ c ∈ calls, c.1 ≠ outcome) → t.target? outcome = none
  size : t.size = (calls.map (·.1)).toFinset.card
  targets : t.targets = t.outcomes.filterMap t.target?
  again : ∀ outcome target, (∃ c ∈ calls, c.1 = outcome) →
    (t.set outcome target).outcomes = t.outcomes ∧
    (t.set outcome target).target? outcome = target ∧
    ∀ other, other ≠ outcome → (t.set outcome target).target? other = t.target? other

/-! ## One call -/

theorem outcomes_set (t : Transitions) (outcome : String) (target : Option String) :
    (t.set outcome target).outcomes =
      if outcome ∈ t.outcomes then t.outcomes else t.outcomes ++ [outcome] :=
  OrderedMap.keys_insert t outcome target

theorem target?_set (t : Transitions) (outcome : String) (target : Option String)
    (other : String) :
    (t.set outcome target).target? other = if other = outcome then target else t.target? other := by
  rw [target?, set, OrderedMap.get?_insert]
  split
  · exact Option.join_some
  · rfl

theorem defines_iff {t : Transitions} {outcome : String} :
    t.defines outcome = true ↔ outcome ∈ t.outcomes := by
  rw [defines, OrderedMap.contains, List.contains_iff_mem, outcomes]

theorem targets_eq_filterMap (t : Transitions) : t.targets = t.outcomes.filterMap t.target? := by
  rw [targets, OrderedMap.values_eq_filterMap, List.filterMap_filterMap, outcomes]
  apply List.filterMap_congr
  intro key _
  exact Option.bind_id_eq_join

/-! ## All calls -/

variable (calls : List Call)

theorem ofCalls_concat (c : Call) : ofCalls (calls ++ [c]) = (ofCalls calls).set c.1 c.2 :=
  List.foldl_concat _ _ _ _

theorem ofCalls_eq_ofList : ofCalls calls = OrderedMap.ofList calls := rfl

variable {calls} {outcome : String} {target : Option String}

theorem mem_outcomes_ofCalls :
    outcome ∈ (ofCalls calls).outcomes ↔ ∃ c ∈ calls, c.1 = outcome := by
  rw [ofCalls_eq_ofList, outcomes, OrderedMap.keys_ofList, List.mem_eraseDups, List.mem_map]

theorem pairwise_outcomes_ofCalls (calls : List Call) :
    (ofCalls calls).outcomes.Pairwise fun a b =>
      (calls.map (·.1)).idxOf a < (calls.map (·.1)).idxOf b := by
  induction calls using List.reverseRecOn with
  | nil => exact List.Pairwise.nil
  | append_singleton calls c ih =>
    have hmem {a : String} (ha : a ∈ (ofCalls calls).outcomes) : a ∈ calls.map (·.1) :=
      List.mem_map.mpr (mem_outcomes_ofCalls.mp ha)
    -- One more call moves nothing that was called for before.
    have hold : (ofCalls calls).outcomes.Pairwise fun a b =>
        ((calls ++ [c]).map (·.1)).idxOf a < ((calls ++ [c]).map (·.1)).idxOf b := by
      refine ih.imp_of_mem fun ha hb hab => ?_
      rwa [List.map_append, List.idxOf_append_of_mem (hmem ha), List.idxOf_append_of_mem (hmem hb)]
    rw [ofCalls_concat, outcomes_set]
    split
    · exact hold
    · -- A new outcome comes behind all that have been called for.
      rename_i hnew
      have hnot : c.1 ∉ calls.map (·.1) := by
        rw [List.mem_map]
        exact fun h => hnew (mem_outcomes_ofCalls.mpr h)
      rw [List.pairwise_append]
      refine ⟨hold, List.pairwise_singleton _ _, ?_⟩
      intro a ha b hb
      obtain rfl := List.mem_singleton.mp hb
      rw [List.map_append, List.idxOf_append_of_mem (hmem ha), List.idxOf_append_of_notMem hnot]
      have hlt := List.idxOf_lt_length_of_mem (hmem ha)
      omega

theorem target?_ofCalls_of_lastCall (h : LastCall calls outcome target) :
    (ofCalls calls).target? outcome = target := by
  obtain ⟨before, after, rfl, hafter⟩ := h
  -- Seen from the end, the call comes first.
  have hlookup : (before ++ (outcome, target) :: after).reverse.lookup outcome = some target := by
    rw [List.lookup_eq_some_iff]
    refine ⟨after.reverse, before.reverse, by simp, ?_⟩
    intro c hc
    simpa using (hafter c (List.mem_reverse.mp hc)).symm
  rw [target?, ofCalls_eq_ofList, OrderedMap.get?_ofList, hlookup, Option.join_some]

theorem target?_ofCalls_of_unknown (h : ∀ c ∈ calls, c.1 ≠ outcome) :
    (ofCalls calls).target? outcome = none := by
  have hmem : outcome ∉ calls.map (·.1) := by
    rw [List.mem_map]
    rintro ⟨c, hc, he⟩
    exact h c hc he
  rw [target?, ofCalls_eq_ofList, OrderedMap.get?_ofList_of_not_mem hmem, Option.join_none]

theorem size_ofCalls (calls : List Call) :
    (ofCalls calls).size = (calls.map (·.1)).toFinset.card := by
  have hsize : (ofCalls calls).size = (ofCalls calls).outcomes.length :=
    (List.length_map _).symm
  have hnodup : (ofCalls calls).outcomes.Nodup := (ofCalls calls).nodup_keys
  have hnames : (ofCalls calls).outcomes.toFinset = (calls.map (·.1)).toFinset := by
    ext name
    rw [List.mem_toFinset, List.mem_toFinset, mem_outcomes_ofCalls, List.mem_map]
  rw [hsize, ← List.toFinset_card_of_nodup hnodup, hnames]

theorem calls_recorded (calls : List Call) : (ofCalls calls).Records calls where
  mem_outcomes _ := mem_outcomes_ofCalls
  order := pairwise_outcomes_ofCalls calls
  defines _ := defines_iff.trans mem_outcomes_ofCalls
  last _ _ h := target?_ofCalls_of_lastCall h
  unknown _ h := target?_ofCalls_of_unknown h
  size := size_ofCalls calls
  targets := targets_eq_filterMap _
  again outcome target h := by
    refine ⟨?_, ?_, ?_⟩
    · rw [outcomes_set, if_pos (mem_outcomes_ofCalls.mpr h)]
    · rw [target?_set, if_pos rfl]
    · intro other hother
      rw [target?_set, if_neg hother]

end Transitions
end Switchboard
