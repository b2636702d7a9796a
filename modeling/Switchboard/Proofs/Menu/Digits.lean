import Mathlib.Data.List.Nodup
import Mathlib.Data.List.ReduceOption
import Std.Data.String.ToNat
import Switchboard.Proofs.Menu.Anchor

/-!
# Switchboard.Proofs.Menu.Digits

Which options of a menu can be dialled. An entry gives its digit, or it leaves the digit to its
position, counted from one; of the options with one digit, a caller reaches the first only.

* `nodup_digits_iff`: the digits are different just if those that are given are, and none of them is
  the position of an entry that gives none.
* `Job.options_dialled`: then every option is the one that its digit selects.
* `positions_hide_options`: a digit that is the position of another entry hides an option.
-/

namespace Switchboard

/-- The digits that the entries of a menu give, in order; `none` for an entry that gives none. -/
def Anchor.givenDigits : Anchor → List (Option String)
  | .menu _ s => s.entries.map fun e => e.option.or e.key
  | .gather _ g => g.entries.map (·.key)
  | .none => []

/-- No digit is given twice, and none that is given is the position of an entry that gives none. -/
structure DigitsApart (given : List (Option String)) : Prop where
  nodup : given.reduceOption.Nodup
  position : ∀ i : Nat, given[i]? = some none → some (i + 1).repr ∉ given

/-- The digit of the entry at a place that gives this digit, or none. -/
def digitAt (i : Nat) (given : Option String) : String := given.getD (i + 1).repr

theorem digits_extractMenu (j : Job) (extension context : String) :
    (j.extractMenu extension context).options.map (·.digit) =
      j.diagram.anchor.givenDigits.mapIdx digitAt := by
  rw [Job.extractMenu_eq]
  apply List.ext_getElem?
  intro i
  cases j.diagram.anchor with
  | menu id s =>
    simp [Menu.ofSettings, Anchor.givenDigits, MenuEntry.explicitOption, digitAt, Function.comp_def]
  | gather id g =>
    simp [Menu.ofGather, Anchor.givenDigits, MenuEntry.gatherOption, MenuEntry.gatherDigit, digitAt,
      Function.comp_def]
  | none => rfl

theorem nodup_reduceOption_iff {given : List (Option String)} :
    given.reduceOption.Nodup ↔
      ∀ (i j : Nat) (s : String), i < j → given[i]? = some (some s) →
        given[j]? ≠ some (some s) := by
  rw [List.reduceOption, List.Nodup, List.pairwise_filterMap, List.pairwise_iff_getElem]
  constructor
  · intro h i j s hij hi hj
    obtain ⟨hi', hs⟩ := List.getElem?_eq_some_iff.mp hi
    obtain ⟨hj', ht⟩ := List.getElem?_eq_some_iff.mp hj
    exact h i j hi' hj' hij s hs s ht rfl
  · rintro h i j hi hj hij s hs t ht rfl
    exact h i j s hij (List.getElem?_eq_some_iff.mpr ⟨hi, hs⟩)
      (List.getElem?_eq_some_iff.mpr ⟨hj, ht⟩)

namespace DigitsApart

variable {given : List (Option String)}

/-- Positions are different, so two entries have the same digit only if one of them gives it. -/
theorem digitAt_ne (h : DigitsApart given) {i j : Nat} (hij : i < j) {s t : Option String}
    (hi : given[i]? = some s) (hj : given[j]? = some t) : digitAt i s ≠ digitAt j t := by
  intro heq
  cases s with
  | none =>
    cases t with
    | none => exact Nat.ne_of_lt hij (Nat.succ_inj.mp (Nat.repr_inj.mp heq))
    | some t =>
      have ht : some t = some (i + 1).repr := congrArg some heq.symm
      exact h.position i hi (List.mem_of_getElem? (ht ▸ hj))
  | some s =>
    cases t with
    | none =>
      have hs : some s = some (j + 1).repr := congrArg some heq
      exact h.position j hj (List.mem_of_getElem? (hs ▸ hi))
    | some t =>
      have ht : some t = some s := congrArg some heq.symm
      exact nodup_reduceOption_iff.mp h.nodup i j s hij hi (ht ▸ hj)

theorem of_nodup_digits (h : (given.mapIdx digitAt).Nodup) : DigitsApart given := by
  have hinj {i j : Nat} {s t : Option String} (hi : given[i]? = some s) (hj : given[j]? = some t)
      (heq : digitAt i s = digitAt j t) : i = j := by
    have hlt : i < (given.mapIdx digitAt).length := by
      simpa using (List.getElem?_eq_some_iff.mp hi).1
    rw [← List.getElem?_inj hlt h, List.getElem?_mapIdx, List.getElem?_mapIdx, hi, hj,
      Option.map_some, Option.map_some, heq]
  constructor
  · rw [nodup_reduceOption_iff]
    intro i j s hij hi hj
    exact Nat.ne_of_lt hij (hinj hi hj rfl)
  · intro i hi hmem
    obtain ⟨j, hj⟩ := List.getElem?_of_mem hmem
    obtain rfl := hinj hi hj rfl
    rw [hi] at hj
    cases hj

end DigitsApart

theorem nodup_digits_iff {given : List (Option String)} :
    (given.mapIdx digitAt).Nodup ↔ DigitsApart given := by
  refine ⟨DigitsApart.of_nodup_digits, fun h => ?_⟩
  rw [List.Nodup, List.pairwise_iff_getElem]
  intro i j hi hj hij
  rw [List.getElem_mapIdx, List.getElem_mapIdx]
  exact h.digitAt_ne hij (List.getElem?_eq_getElem _) (List.getElem?_eq_getElem _)

theorem Menu.option?_digit {m : Menu} (h : (m.options.map (·.digit)).Nodup) {o : MenuOption}
    (ho : o ∈ m.options) : m.option? o.digit = some o := by
  obtain ⟨o', ho'⟩ : ∃ o', m.option? o.digit = some o' := by
    rw [← Option.isSome_iff_exists, option?, List.find?_isSome]
    exact ⟨o, ho, beq_self_eq_true _⟩
  have hdigit : o'.digit = o.digit := by simpa using List.find?_some ho'
  rw [ho', List.inj_on_of_nodup_map h (List.mem_of_find?_eq_some ho') ho hdigit]

/-- The options of a menu have different digits just if no digit is given twice or is both given and
the position of an entry that gives none, and then each digit selects its own option. -/
theorem Job.options_dialled (j : Job) (extension context : String) :
    (((j.extractMenu extension context).options.map (·.digit)).Nodup ↔
      DigitsApart j.diagram.anchor.givenDigits) ∧
    (DigitsApart j.diagram.anchor.givenDigits →
      ∀ o ∈ (j.extractMenu extension context).options,
        (j.extractMenu extension context).option? o.digit = some o) := by
  have hiff : ((j.extractMenu extension context).options.map (·.digit)).Nodup ↔
      DigitsApart j.diagram.anchor.givenDigits := by
    rw [digits_extractMenu, nodup_digits_iff]
  exact ⟨hiff, fun h o ho => Menu.option?_digit (hiff.mpr h) ho⟩

def desk (type : String) (entries : List Json) : Job where
  diagram := ⟨[.ofBag "desk" type [("menuOptions", .array entries)]], []⟩
  name := "Desk"
  options := .default

/-- The second of three entries gives a digit that is the position of none. -/
def apartDesk : Job := desk "gather-input" [
  .object [("label", .string "Sales")],
  .object [("key", .string "0"), ("label", .string "Operator")],
  .object [("label", .string "Support")]]

theorem apartDesk_options_dialled :
    DigitsApart apartDesk.diagram.anchor.givenDigits ∧
    (apartDesk.extractMenu "2000" "default").options.map (·.digit) = ["1", "0", "3"] ∧
    ∀ o ∈ (apartDesk.extractMenu "2000" "default").options,
      (apartDesk.extractMenu "2000" "default").option? o.digit = some o := by
  obtain ⟨hiff, hdialled⟩ := apartDesk.options_dialled "2000" "default"
  have hdigits : (apartDesk.extractMenu "2000" "default").options.map (·.digit) =
      ["1", "0", "3"] := rfl
  have hapart := hiff.mp (by rw [hdigits]; decide)
  exact ⟨hapart, hdigits, hdialled hapart⟩

/-- The first of two entries gives the position of the second for a digit. -/
def clashingDesk (type : String) : Job := desk type [
  .object [("key", .string "2"), ("label", .string "Sales")],
  .object [("label", .string "Support")]]

/-- No digit is given twice, but two options of the menu have one, and it selects the other one. -/
structure Job.HidesOption (j : Job) (extension context : String) : Prop where
  given : j.diagram.anchor.givenDigits.reduceOption.Nodup
  repeated : ¬ ((j.extractMenu extension context).options.map (·.digit)).Nodup
  hidden : ∃ o ∈ (j.extractMenu extension context).options,
    (j.extractMenu extension context).option? o.digit ≠ some o

/-- Nobody can dial the second option, whichever way the menu is extracted. -/
theorem positions_hide_options :
    (clashingDesk "ivr-menu").HidesOption "2000" "default" ∧
    (clashingDesk "gather-input").HidesOption "2000" "default" := by
  have hne {o o' : MenuOption} (h : o.order ≠ o'.order) : some o ≠ some o' :=
    fun heq => h (Option.some.inj heq ▸ rfl)
  refine ⟨⟨by decide, by decide, _, List.mem_cons_of_mem _ List.mem_cons_self, hne ?_⟩,
    ⟨by decide, by decide, _, List.mem_cons_of_mem _ List.mem_cons_self, hne ?_⟩⟩
  all_goals decide

end Switchboard
