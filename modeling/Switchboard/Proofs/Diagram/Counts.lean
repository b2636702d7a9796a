import Switchboard.Diagram.Basic
import Switchboard.Proofs.Number.Nearest
import Switchboard.Proofs.Number.Numeral

/-!
# Switchboard.Proofs.Diagram.Counts

The counts of a step: how many digits, how many seconds. `Json.Reads` says which double a property
is read as, and `Bag.SetsCount` what becomes of it. Whether a number is above zero is asked before
it is rounded, so a number between zero and one half is not left out but becomes the count zero.

* `Bag.number?_of_reads`, `Bag.reads_of_number?`: what the properties of a bag are read as.
* `Binary64.roundHalfAway_eq_round`: how a double is rounded.
* `Step.counts_read`: every count of every step.
-/

namespace Switchboard

/-- The value is read as the double `x`. Text may have blanks around its numeral; what is beyond the
range of the finite doubles is read as none. -/
inductive Json.Reads : Json → Binary64 → Prop where
  | integer {i : Int} {x : Binary64} : x.IsNearest i → Reads (.number (.integer i)) x
  | float (x : Binary64) : Reads (.number (.float x)) x
  | text {s : String} {before numeral after : List Char} {d : Decimal} {x : Binary64} :
      s.toList = before ++ (numeral ++ after) → (∀ c ∈ before, Text.isBlank c = true) →
      (∀ c ∈ after, Text.isBlank c = true) → d.Written numeral → x.IsNearest d.value →
      Reads (.string s) x

/-- What the count `c` is made from: a property, or its default. -/
structure Bag.SetsCount (bag : Bag) (name : String) (default c : Option Nat) : Prop where
  unset : (∀ v x, bag.get? name = some v → v.Reads x → x.value ≤ 0) → c = default
  set : ∀ v x, bag.get? name = some v → v.Reads x → 1 / 2 ≤ x.value →
    c = some (max 1 (min (round x.value).toNat (2 ^ 32 - 1)))
  lost : ∀ v x, bag.get? name = some v → v.Reads x → 0 < x.value → x.value < 1 / 2 → c = some 0

/-- The properties that a family reads as counts, and their defaults. -/
def Family.countFields : Family → List (String × Option Nat)
  | .gather => [("minDigits", some 1), ("maxDigits", some 10), ("timeout", some 5)]
  | .forward => [("timeout", some 30)]
  | .callRecording | .voicemail => [("maxDuration", some 300)]
  | .menu => [("timeout", none)]
  | _ => []

def Step.counts : Step → List (Option Nat)
  | .gather g => [some g.minDigits, some g.maxDigits, some g.timeout]
  | .forward f => [some f.timeout]
  | .record r => [some r.maxDuration]
  | .menu s => [s.timeout]
  | _ => []

/-! ## Doubles -/

namespace Binary64

variable {x : Binary64}

theorem isPositive_iff : x.isPositive = true ↔ 0 < x.value := by
  have hpow : (0 : ℚ) < 2 ^ x.exponent := by positivity
  rw [isPositive, isZero, value, sign]
  cases x.negative with
  | false => simp [hpow, Nat.pos_iff_ne_zero]
  | true =>
    have hle : -((x.significand : ℚ) * 2 ^ x.exponent) ≤ 0 := by
      rw [neg_nonpos]
      positivity
    simpa using hle

theorem value_eq_div (h : 0 < x.value) : x.value = x.num / x.den := by
  have hsign : x.negative = false := by
    have hpositive := isPositive_iff.mpr h
    rw [isPositive, Bool.and_eq_true, Bool.not_eq_true'] at hpositive
    exact hpositive.1
  rw [value, hsign, sign, if_neg Bool.false_ne_true, one_mul, num, den, Nat.cast_mul,
    mul_div_assoc, twoPow_div_twoPow]

/-- For numbers above zero a half is rounded away from zero if it is rounded upwards. -/
theorem roundHalfAway_eq_round (h : 0 < x.value) : (x.roundHalfAway : ℤ) = round x.value := by
  have hden : (0 : ℚ) < x.den := by exact_mod_cast x.den_pos
  have hhalf : x.value + 1 / 2 = ((2 * x.num + x.den : ℕ) : ℚ) / (2 * x.den : ℕ) := by
    rw [value_eq_div h]
    push_cast
    field_simp
  rw [round_eq, hhalf, Rat.floor_natCast_div_natCast, roundHalfAway]
  norm_cast

end Binary64

/-! ## Properties -/

namespace Bag

variable {bag : Bag} {name : String} {v : Json} {x : Binary64}

theorem number?_of_reads (hv : bag.get? name = some v) (h : v.Reads x) :
    ∃ y, bag.number? name = some y ∧ y.value = x.value := by
  rw [number?, hv]
  cases h with
  | integer hx => exact ⟨_, rfl, ((Binary64.ofInt_spec _).1 hx.inRange).value_eq hx⟩
  | float => exact ⟨x, rfl, rfl⟩
  | @text s before numeral after d _ hs hbefore hafter hwritten hx =>
    have htrim : Text.trim s.toList = numeral := by
      rw [hs]
      exact Text.trim_append hbefore hafter hwritten.not_isBlank
    simp only [htrim, Decimal.read_eq_some_iff.mpr hwritten, Option.bind_some]
    obtain ⟨hsome, hnone⟩ := d.toBinary64?_spec
    cases hy : d.toBinary64? with
    | none => exact absurd hx.inRange (not_lt.mpr (hnone hy))
    | some y => exact ⟨y, rfl, (hsome y hy).value_eq hx⟩

/-- An integer out of range would be read as zero, which is not above zero. -/
theorem reads_of_number? (h : bag.number? name = some x) (hx : 0 < x.value) :
    ∃ v, bag.get? name = some v ∧ v.Reads x := by
  rw [number?] at h
  cases hv : bag.get? name with
  | none => simp [hv] at h
  | some v =>
    rw [hv] at h
    refine ⟨v, rfl, ?_⟩
    cases v with
    | number n =>
      cases h
      cases n with
      | float x => exact .float x
      | integer i =>
        obtain ⟨hnear, hzero⟩ := Binary64.ofInt_spec i
        by_cases hi : |(i : ℚ)| < Binary64.range
        · exact .integer (hnear hi)
        · simp [Number.toBinary64, hzero (not_lt.mp hi), Binary64.zero, Binary64.value] at hx
    | string s =>
      obtain ⟨d, hd, hx⟩ := Option.bind_eq_some_iff.mp h
      obtain ⟨before, after, hs, hbefore, hafter⟩ := Text.exists_trim s.toList
      exact .text hs hbefore hafter (Decimal.read_eq_some_iff.mp hd) (d.toBinary64?_spec.1 x hx)
    | null | bool | array | object => cases h

theorem positive?_of_reads (hv : bag.get? name = some v) (h : v.Reads x) (hx : 0 < x.value) :
    bag.positive? name = some (min (round x.value).toNat (2 ^ 32 - 1)) := by
  obtain ⟨y, hy, hvalue⟩ := number?_of_reads hv h
  rw [← hvalue] at hx ⊢
  rw [← Binary64.roundHalfAway_eq_round hx, Int.toNat_natCast]
  simp [positive?, hy, Binary64.isPositive_iff.mpr hx, toCount, maxCount]

theorem positive?_eq_none (h : ∀ v x, bag.get? name = some v → v.Reads x → x.value ≤ 0) :
    bag.positive? name = none := by
  rw [positive?]
  cases hx : bag.number? name with
  | none => rfl
  | some x =>
    have hpositive : ¬ x.isPositive = true := by
      rw [Binary64.isPositive_iff]
      intro hpos
      obtain ⟨v, hv, hreads⟩ := reads_of_number? hx hpos
      exact absurd (h v x hv hreads) (not_le.mpr hpos)
    simp [hpositive]

theorem setsCount_positive? (bag : Bag) (name : String) (default : Option Nat) :
    bag.SetsCount name default ((bag.positive? name).or default) where
  unset h := by rw [positive?_eq_none h, Option.none_or]
  set v x hv h hx := by
    have hone : 1 ≤ round x.value := by
      rw [round_eq, Int.le_floor]
      push_cast
      linarith
    rw [positive?_of_reads hv h (by linarith), Option.some_or, Nat.max_eq_right]
    omega
  lost v x hv h hx hx' := by
    have hzero : round x.value = 0 := by
      rw [round_eq_zero_iff]
      constructor <;> linarith
    rw [positive?_of_reads hv h hx, Option.some_or, hzero]
    rfl

end Bag

theorem Step.counts_read (tag : String) (bag : Bag) :
    List.Forall₂ (fun field c => bag.SetsCount field.1 field.2 c) (Family.ofTag tag).countFields
      (Step.ofBag (.ofTag tag) bag).counts := by
  have hdefault (name : String) (n : Nat) :
      bag.SetsCount name (some n) (some ((bag.positive? name).getD n)) := by
    have h := bag.setsCount_positive? name (some n)
    cases hp : bag.positive? name <;> rwa [hp] at h
  have hnone (name : String) : bag.SetsCount name none (bag.positive? name) := by
    have h := bag.setsCount_positive? name none
    rwa [Option.or_none] at h
  cases Family.ofTag tag with
  | gather => exact .cons (hdefault _ 1) (.cons (hdefault _ 10) (.cons (hdefault _ 5) .nil))
  | forward => exact .cons (hdefault _ 30) .nil
  | callRecording | voicemail => exact .cons (hdefault _ 300) .nil
  | menu => exact .cons (hnone _) .nil
  | answer | play | hangUp | sms | other => exact .nil

end Switchboard
