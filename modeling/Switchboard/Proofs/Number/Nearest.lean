import Mathlib.Algebra.Order.Field.Power
import Mathlib.Algebra.Order.Round
import Mathlib.Data.Rat.Floor
import Mathlib.Tactic.FieldSimp
import Mathlib.Tactic.Linarith
import Mathlib.Tactic.Positivity
import Mathlib.Tactic.Ring
import Switchboard.Number.Decimal

/-!
# Switchboard.Proofs.Number.Nearest

Rounding to doubles. `Binary64.value` is the rational number that a double denotes, and
`Binary64.IsNearest` says that a double is the nearest one to a rational number, a tie going to the
even significand.

* `Binary64.Grid.isNearest`: the argument. Every double is a multiple of the spacing that the ratio
  is rounded to, or else it is smaller than all doubles of that spacing.
* `Binary64.ofRatio_spec`, `Binary64.ofInt_spec`, `Decimal.toBinary64?_spec`: a ratio, an integer
  and a decimal number become the nearest double, and none only beyond the range of the finite ones.
-/

namespace Switchboard
namespace Binary64

def sign (negative : Bool) : ℚ := if negative then -1 else 1

def value (x : Binary64) : ℚ := sign x.negative * (x.significand * 2 ^ x.exponent)

/-- The doubles of the interchange format. -/
structure Canonical (x : Binary64) : Prop where
  significand_lt : x.significand < 2 ^ 53
  exponent_ge : -1074 ≤ x.exponent
  exponent_le : x.exponent ≤ 971
  normal : 2 ^ 52 ≤ x.significand ∨ x.exponent = -1074

/-- Half a unit beyond the greatest finite double, from where on numbers round to none. -/
def range : ℚ := (2 ^ 53 - 1 / 2) * 2 ^ (971 : ℤ)

/-- `x` is the double nearest to `q`; of two that are, it is the one with the even significand. -/
structure IsNearest (x : Binary64) (q : ℚ) : Prop where
  canonical : x.Canonical
  inRange : |q| < range
  le : ∀ y : Binary64, y.Canonical → |x.value - q| ≤ |y.value - q|
  even : ∀ y : Binary64, y.Canonical → y.value ≠ x.value → |y.value - q| = |x.value - q| →
    Even x.significand

theorem sign_mul_self (b : Bool) : sign b * sign b = 1 := by
  cases b <;> norm_num [sign]

theorem abs_sign (b : Bool) : |sign b| = 1 := by
  cases b <;> norm_num [sign]

theorem abs_sign_mul_sub (b : Bool) (u v : ℚ) : |sign b * u - sign b * v| = |u - v| := by
  rw [← mul_sub, abs_mul, abs_sign, one_mul]

theorem two_zpow_add (e : ℤ) (n : ℕ) : (2 : ℚ) ^ (e + n) = 2 ^ n * 2 ^ e := by
  rw [zpow_add₀ two_ne_zero, zpow_natCast, mul_comm]

/-- A power with an integer for exponent as the ratio of two with natural ones. -/
theorem pow_toNat_div (b : ℚ) (e : ℤ) : b ^ e.toNat / b ^ (-e).toNat = b ^ e := by
  obtain ⟨n, rfl | rfl⟩ := e.eq_nat_or_neg
  · simp
  · simp

theorem twoPow_div_twoPow (e : ℤ) : (twoPow e.toNat : ℚ) / twoPow (-e).toNat = 2 ^ e := by
  simpa [twoPow] using pow_toNat_div 2 e

theorem Canonical.isNearest {x : Binary64} (h : x.Canonical) : x.IsNearest x.value where
  canonical := h
  inRange := by
    have hlt : (x.significand : ℚ) < 2 ^ 53 - 1 / 2 := by
      have hle : (x.significand : ℚ) + 1 ≤ 2 ^ 53 := by exact_mod_cast h.significand_lt
      linarith
    have hnonneg : (0 : ℚ) ≤ x.significand * 2 ^ x.exponent := by positivity
    have hpow : (2 : ℚ) ^ x.exponent ≤ 2 ^ (971 : ℤ) :=
      zpow_le_zpow_right₀ one_le_two h.exponent_le
    have hpos : (0 : ℚ) < 2 ^ (971 : ℤ) := by positivity
    rw [value, abs_mul, abs_sign, one_mul, abs_of_nonneg hnonneg, range]
    calc (x.significand : ℚ) * 2 ^ x.exponent ≤ x.significand * 2 ^ (971 : ℤ) :=
          mul_le_mul_of_nonneg_left hpow (Nat.cast_nonneg _)
      _ < (2 ^ 53 - 1 / 2) * 2 ^ (971 : ℤ) := mul_lt_mul_of_pos_right hlt hpos
  le y _ := by
    rw [sub_self, abs_zero]
    exact abs_nonneg _
  even y _ hne heq := by
    rw [sub_self, abs_zero, abs_eq_zero, sub_eq_zero] at heq
    exact absurd heq hne

/-! ## Rounding to a natural number -/

/-- The natural number `m` is the nearest one to `q`, a tie going to the even one. -/
structure RoundsTo (q : ℚ) (m : ℕ) : Prop where
  near : |(m : ℚ) - q| ≤ 1 / 2
  tie : |(m : ℚ) - q| = 1 / 2 → Even m

/-- A whole number and a fraction go to the whole number below, to the one above, or, from halfway,
to the even one of the two. -/
theorem roundsTo_add (k : ℕ) {f : ℚ} (hf : 0 ≤ f) (hf' : f < 1) :
    RoundsTo (k + f) (if f < 1 / 2 then k else if 1 / 2 < f then k + 1 else k + k % 2) := by
  have hdown : |(k : ℚ) - (k + f)| = f := by
    rw [sub_add_cancel_left, abs_neg, abs_of_nonneg hf]
  have hup : |((k + 1 : ℕ) : ℚ) - (k + f)| = 1 - f := by
    push_cast
    rw [add_sub_add_left_eq_sub, abs_of_nonneg (by linarith)]
  split
  · constructor <;> rw [hdown] <;> intros <;> linarith
  · split
    · constructor <;> rw [hup] <;> intros <;> linarith
    · have hhalf : f = 1 / 2 := by linarith
      refine ⟨?_, fun _ => Nat.even_iff.mpr (by omega)⟩
      obtain hk | hk := Nat.mod_two_eq_zero_or_one k
      · rw [hk, Nat.add_zero, hdown, hhalf]
      · rw [hk, hup, hhalf]
        norm_num

theorem roundsTo_roundHalfEven (num : ℕ) {den : ℕ} (hden : 0 < den) :
    RoundsTo (num / den) (roundHalfEven num den) := by
  have hpos : (0 : ℚ) < den := by exact_mod_cast hden
  have hsplit : (num : ℚ) / den = (num / den : ℕ) + (num % den : ℕ) / den := by
    rw [add_div_eq_mul_add_div _ _ hpos.ne', ← Nat.cast_mul, ← Nat.cast_add, Nat.div_add_mod']
  have hlt : ((num % den : ℕ) : ℚ) / den < 1 := by
    rw [div_lt_one hpos]
    exact_mod_cast Nat.mod_lt num hden
  have hround := roundsTo_add (num / den) (by positivity) hlt
  have hdown : ((num % den : ℕ) : ℚ) / den < 1 / 2 ↔ 2 * (num % den) < den := by
    rw [div_lt_div_iff₀ hpos two_pos, one_mul, mul_comm]
    exact_mod_cast Iff.rfl
  have hup : 1 / 2 < ((num % den : ℕ) : ℚ) / den ↔ den < 2 * (num % den) := by
    rw [div_lt_div_iff₀ two_pos hpos, one_mul, mul_comm]
    exact_mod_cast Iff.rfl
  simp only [hdown, hup, ← hsplit] at hround
  exact hround

namespace RoundsTo

variable {q : ℚ} {m : ℕ} (h : RoundsTo q m)
include h

/-- Two whole numbers are at least one apart, so no other one is nearer. -/
theorem le_int (k : ℤ) : |(m : ℚ) - q| ≤ |(k : ℚ) - q| ∧
    ((k : ℚ) ≠ m → |(k : ℚ) - q| = |(m : ℚ) - q| → Even m) := by
  by_cases hk : k = m
  · subst hk
    exact ⟨le_rfl, fun hne => absurd rfl hne⟩
  · have hint : (1 : ℤ) ≤ |k - m| := Int.one_le_abs (sub_ne_zero.mpr hk)
    have hone : (1 : ℚ) ≤ |(k : ℚ) - m| := by exact_mod_cast hint
    have htri : |(k : ℚ) - m| ≤ |(k : ℚ) - q| + |(m : ℚ) - q| := by
      rw [abs_sub_comm (m : ℚ) q]
      exact abs_sub_le _ _ _
    have hnear := h.near
    refine ⟨by linarith, fun _ heq => h.tie ?_⟩
    linarith

end RoundsTo

/-! ## The exponent -/

theorem ratioLog2_bounds {num den : ℕ} (hnum : num ≠ 0) (hden : den ≠ 0) :
    (2 : ℚ) ^ ratioLog2 num den ≤ num / den ∧ (num : ℚ) / den < 2 ^ (ratioLog2 num den + 1) := by
  have hpos : (0 : ℚ) < den := by exact_mod_cast Nat.pos_of_ne_zero hden
  have hnum_ge : (2 : ℚ) ^ (num.log2 : ℤ) ≤ num := by
    exact_mod_cast Nat.log2_self_le hnum
  have hnum_lt : (num : ℚ) < 2 ^ ((num.log2 : ℤ) + 1) := by
    exact_mod_cast Nat.lt_log2_self (n := num)
  have hden_ge : (2 : ℚ) ^ (den.log2 : ℤ) ≤ den := by
    exact_mod_cast Nat.log2_self_le hden
  have hden_lt : (den : ℚ) < 2 ^ ((den.log2 : ℤ) + 1) := by
    exact_mod_cast Nat.lt_log2_self (n := den)
  have hcond (e : ℤ) : den * twoPow e.toNat ≤ num * twoPow (-e).toNat ↔
      (2 : ℚ) ^ e ≤ num / den := by
    have htwo : (0 : ℚ) < twoPow (-e).toNat := by exact_mod_cast twoPow_pos _
    rw [← twoPow_div_twoPow, div_le_div_iff₀ htwo hpos, mul_comm (twoPow e.toNat : ℚ)]
    exact_mod_cast Iff.rfl
  simp only [ratioLog2, hcond]
  split
  · rename_i hle
    refine ⟨hle, ?_⟩
    rw [div_lt_iff₀ hpos]
    calc (num : ℚ) < 2 ^ ((num.log2 : ℤ) + 1) := hnum_lt
      _ = 2 ^ ((num.log2 : ℤ) - den.log2 + 1) * 2 ^ (den.log2 : ℤ) := by
        rw [← zpow_add₀ two_ne_zero]
        congr 1
        ring
      _ ≤ 2 ^ ((num.log2 : ℤ) - den.log2 + 1) * den := by gcongr
  · rename_i hlt
    rw [sub_add_cancel]
    refine ⟨?_, not_le.mp hlt⟩
    rw [le_div_iff₀ hpos]
    calc (2 : ℚ) ^ ((num.log2 : ℤ) - den.log2 - 1) * den
        ≤ 2 ^ ((num.log2 : ℤ) - den.log2 - 1) * 2 ^ ((den.log2 : ℤ) + 1) := by gcongr
      _ = 2 ^ (num.log2 : ℤ) := by
        rw [← zpow_add₀ two_ne_zero]
        congr 1
        ring
      _ ≤ num := hnum_ge

/-! ## Rounding to a double -/

/-- The magnitude `q` is rounded to `m` units of `2 ^ e`. The unit is the smallest one with which
`m` has 53 bits at most, or the smallest of all. -/
structure Grid (q : ℚ) (m : ℕ) (e : ℤ) : Prop where
  rounds : RoundsTo (q / 2 ^ e) m
  exponent_ge : -1074 ≤ e
  lt : q < 2 ^ (e + 53)
  normal : -1074 < e → 2 ^ (e + 52) ≤ q

/-- `m` units of `2 ^ e` as a double, where `m` may have come to need one bit more. -/
def carry (negative : Bool) (m : ℕ) (e : ℤ) : Binary64 :=
  if m = 2 ^ 53 then ⟨negative, 2 ^ 52, e + 1⟩ else ⟨negative, m, e⟩

theorem value_carry (negative : Bool) (m : ℕ) (e : ℤ) :
    (carry negative m e).value = sign negative * (m * 2 ^ e) := by
  unfold carry
  split
  · rename_i hm
    rw [value, hm, zpow_add_one₀ two_ne_zero]
    push_cast
    ring
  · rfl

namespace Grid

variable {q : ℚ} {m : ℕ} {e : ℤ} (h : Grid q m e)
include h

omit h in
theorem abs_sub_mul (u : ℚ) : |u * 2 ^ e - q| = |u - q / 2 ^ e| * 2 ^ e := by
  have hpos : (0 : ℚ) < 2 ^ e := by positivity
  rw [← abs_of_pos hpos, ← abs_mul, abs_of_pos hpos, sub_mul, div_mul_cancel₀ _ hpos.ne']

/-- No multiple of the unit is nearer than the one rounded to. -/
theorem le_multiple (k : ℤ) : |m * 2 ^ e - q| ≤ |k * 2 ^ e - q| ∧
    ((k * 2 ^ e : ℚ) ≠ m * 2 ^ e → |k * 2 ^ e - q| = |m * 2 ^ e - q| → Even m) := by
  have hpos : (0 : ℚ) < 2 ^ e := by positivity
  obtain ⟨hle, heven⟩ := h.rounds.le_int k
  rw [abs_sub_mul, abs_sub_mul]
  refine ⟨mul_le_mul_of_nonneg_right hle hpos.le, fun hne heq => ?_⟩
  refine heven ?_ (mul_right_cancel₀ hpos.ne' heq)
  rintro hk
  exact hne (by rw [hk])

/-- Nor is a number that is smaller than all doubles of that unit. -/
theorem lt_of_lt {v : ℚ} (he : -1074 < e) (hv : v < 2 ^ (e + 52)) :
    |m * 2 ^ e - q| < |v - q| := by
  have hq := h.normal he
  have hedge : ((2 ^ 52 : ℤ) : ℚ) * 2 ^ e = 2 ^ (e + 52) := by
    push_cast
    exact (two_zpow_add e 52).symm
  have hle := (h.le_multiple (2 ^ 52)).1
  have hfar : 0 ≤ q - v := by linarith
  rw [hedge, abs_sub_comm (2 ^ (e + 52)) q, abs_of_nonneg (sub_nonneg.mpr hq)] at hle
  rw [abs_sub_comm v q, abs_of_nonneg hfar]
  linarith

theorem le_two_pow : m ≤ 2 ^ 53 := by
  have hpos : (0 : ℚ) < 2 ^ e := by positivity
  have hq : q / 2 ^ e < 2 ^ 53 := by
    rw [div_lt_iff₀ hpos]
    exact h.lt.trans_eq (two_zpow_add e 53)
  have hnear := (abs_le.mp h.rounds.near).2
  have hm : (m : ℚ) < 2 ^ 53 + 1 := by linarith
  exact Nat.lt_succ_iff.mp (by exact_mod_cast hm)

theorem two_pow_le (he : -1074 < e) : 2 ^ 52 ≤ m := by
  have hpos : (0 : ℚ) < 2 ^ e := by positivity
  have hq : 2 ^ 52 ≤ q / 2 ^ e := by
    rw [le_div_iff₀ hpos]
    exact (two_zpow_add e 52).symm.trans_le (h.normal he)
  have hnear := (abs_le.mp h.rounds.near).1
  have hm : (2 : ℚ) ^ 52 < m + 1 := by linarith
  exact Nat.lt_succ_iff.mp (by exact_mod_cast hm)

theorem canonical_carry (negative : Bool) (hx : (carry negative m e).exponent ≤ 971) :
    (carry negative m e).Canonical := by
  have hle := h.le_two_pow
  have hge := h.exponent_ge
  unfold carry at hx ⊢
  split
  · rename_i hm
    rw [if_pos hm] at hx
    exact ⟨by norm_num, by simp only; omega, hx, .inl le_rfl⟩
  · rename_i hm
    rw [if_neg hm] at hx
    refine ⟨lt_of_le_of_ne hle hm, hge, hx, ?_⟩
    by_cases he : -1074 < e
    · exact .inl (h.two_pow_le he)
    · exact .inr (le_antisymm (not_lt.mp he) hge)

/-- Of the largest unit, `2 ^ 53` are too many, and that is where halfway from one less goes. -/
theorem lt_range_iff (negative : Bool) : q < range ↔ (carry negative m e).exponent ≤ 971 := by
  have hpos : (0 : ℚ) < 2 ^ (971 : ℤ) := by positivity
  have hexponent : (carry negative m e).exponent ≤ 971 ↔ e ≤ 970 ∨ e = 971 ∧ m ≠ 2 ^ 53 := by
    unfold carry
    split <;> simp only <;> omega
  rw [hexponent, range]
  obtain he | rfl | he := lt_trichotomy e 971
  · refine iff_of_true ?_ (.inl (by omega))
    calc q < 2 ^ (e + 53) := h.lt
      _ ≤ 2 ^ ((971 : ℤ) + (52 : ℕ)) := zpow_le_zpow_right₀ one_le_two (by omega)
      _ = 2 ^ 52 * 2 ^ (971 : ℤ) := two_zpow_add 971 52
      _ ≤ (2 ^ 53 - 1 / 2) * 2 ^ (971 : ℤ) := mul_le_mul_of_nonneg_right (by norm_num) hpos.le
  · have hle := h.le_two_pow
    obtain ⟨hnear, htie⟩ := h.rounds
    rw [← div_lt_iff₀ hpos]
    generalize q / 2 ^ (971 : ℤ) = u at hnear htie
    obtain ⟨hlow, hhigh⟩ := abs_le.mp hnear
    constructor
    · intro hu
      refine .inr ⟨rfl, ?_⟩
      rintro rfl
      push_cast at hhigh
      linarith
    · rintro (he | ⟨-, hm⟩)
      · omega
      · by_contra hu
        have hlt : m + 1 ≤ 2 ^ 53 := by omega
        have hlt' : (m : ℚ) + 1 ≤ 2 ^ 53 := by exact_mod_cast hlt
        have hodd : (m : ℚ) + 1 = 2 ^ 53 := by linarith
        have hodd' : m + 1 = 2 ^ 53 := by exact_mod_cast hodd
        have hhalf : |(m : ℚ) - u| = 1 / 2 := by
          have hnonneg : 0 ≤ u - m := by linarith
          rw [abs_sub_comm, abs_of_nonneg hnonneg]
          linarith
        have heven := Nat.even_iff.mp (htie hhalf)
        omega
  · refine iff_of_false (not_lt.mpr ?_) (by omega)
    calc (2 ^ 53 - 1 / 2) * (2 : ℚ) ^ (971 : ℤ) ≤ 2 ^ 53 * 2 ^ (971 : ℤ) :=
          mul_le_mul_of_nonneg_right (by norm_num) hpos.le
      _ = 2 ^ ((971 : ℤ) + (53 : ℕ)) := (two_zpow_add 971 53).symm
      _ ≤ 2 ^ (e + 52) := zpow_le_zpow_right₀ one_le_two (by omega)
      _ ≤ q := h.normal (by omega)

omit h in
/-- A double of this unit or a larger one is a multiple of the unit. -/
theorem exists_multiple (s : Bool) {y : Binary64} (he : e ≤ y.exponent) :
    ∃ k : ℤ, sign s * y.value = k * 2 ^ e ∧ (Even y.significand → Even k) := by
  obtain ⟨n, hn⟩ := Int.le.dest he
  have hsigns : ∃ t : ℤ, sign s * sign y.negative = t := by
    cases s <;> cases y.negative
    · exact ⟨1, by norm_num [sign]⟩
    · exact ⟨-1, by norm_num [sign]⟩
    · exact ⟨-1, by norm_num [sign]⟩
    · exact ⟨1, by norm_num [sign]⟩
  obtain ⟨t, ht⟩ := hsigns
  refine ⟨t * (y.significand * 2 ^ n), ?_, fun heven => ?_⟩
  · rw [value, ← mul_assoc, ht, ← hn, zpow_add₀ two_ne_zero, zpow_natCast]
    push_cast
    ring
  · have heven' : Even (y.significand : ℤ) := by exact_mod_cast heven
    exact (heven'.mul_right _).mul_left t

omit h in
/-- A double of a smaller unit is smaller than all doubles of the unit. -/
theorem lt_two_zpow (s : Bool) {y : Binary64} (hy : y.Canonical) (he : y.exponent < e) :
    sign s * y.value < 2 ^ (e + 52) := by
  refine (le_abs_self _).trans_lt ?_
  rw [value, abs_mul, abs_sign, one_mul, abs_mul, abs_sign, one_mul, abs_of_nonneg (by positivity)]
  calc (y.significand : ℚ) * 2 ^ y.exponent < 2 ^ 53 * 2 ^ y.exponent := by
        gcongr
        exact_mod_cast hy.significand_lt
    _ = 2 ^ (y.exponent + 53) := (two_zpow_add y.exponent 53).symm
    _ ≤ 2 ^ (e + 52) := zpow_le_zpow_right₀ one_le_two (by omega)

theorem nearest (s : Bool) {y : Binary64} (hy : y.Canonical) :
    |m * 2 ^ e - q| ≤ |sign s * y.value - q| ∧
    (sign s * y.value ≠ m * 2 ^ e → |sign s * y.value - q| = |m * 2 ^ e - q| → Even m) := by
  obtain he | he := le_or_gt e y.exponent
  · obtain ⟨k, hk, -⟩ := exists_multiple s he
    rw [hk]
    exact h.le_multiple k
  · have hlt := h.lt_of_lt (lt_of_le_of_lt hy.exponent_ge he) (lt_two_zpow s hy he)
    exact ⟨hlt.le, fun _ heq => absurd heq hlt.ne'⟩

/-- Of two numbers of units that are as near as each other, one is odd. -/
theorem eq_of_even (s : Bool) {y : Binary64} (hy : y.Canonical) (heven : Even y.significand)
    (hle : |sign s * y.value - q| ≤ |m * 2 ^ e - q|) : sign s * y.value = m * 2 ^ e := by
  have hpos : (0 : ℚ) < 2 ^ e := by positivity
  obtain he | he := le_or_gt e y.exponent
  · obtain ⟨k, hk, hkeven⟩ := exists_multiple s he
    rw [hk] at hle ⊢
    by_contra hne
    obtain ⟨hge, htie⟩ := h.le_multiple k
    have hm : Even (m : ℤ) := by exact_mod_cast htie hne (le_antisymm hle hge)
    rw [abs_sub_mul, abs_sub_mul, mul_le_mul_iff_left₀ hpos] at hle
    have hnear := h.rounds.near
    have hclose : |(k : ℚ) - m| ≤ 1 := by
      have htri := abs_sub_le (k : ℚ) (q / 2 ^ e) m
      rw [abs_sub_comm (q / 2 ^ e)] at htri
      linarith
    have hclose' : |k - m| ≤ 1 := by exact_mod_cast hclose
    obtain ⟨hlow, hhigh⟩ := abs_le.mp hclose'
    have hkm : k ≠ m := fun heq => hne (by rw [heq]; rfl)
    obtain ⟨a, ha⟩ := hkeven heven
    obtain ⟨b, hb⟩ := hm
    omega
  · exact absurd hle (not_le.mpr
      (h.lt_of_lt (lt_of_le_of_lt hy.exponent_ge he) (lt_two_zpow s hy he)))

theorem isNearest_carry (hq : 0 ≤ q) (s : Bool) (hx : (carry s m e).exponent ≤ 971) :
    (carry s m e).IsNearest (sign s * q) where
  canonical := h.canonical_carry s hx
  inRange := by
    rw [abs_mul, abs_sign, one_mul, abs_of_nonneg hq]
    exact (h.lt_range_iff s).mpr hx
  le y hy := by
    rw [value_carry, abs_sign_mul_sub, ← one_mul y.value, ← sign_mul_self s, mul_assoc,
      abs_sign_mul_sub]
    exact (h.nearest s hy).1
  even y hy := by
    rw [value_carry, abs_sign_mul_sub, ← one_mul y.value, ← sign_mul_self s, mul_assoc,
      abs_sign_mul_sub]
    intro hne heq
    have heven := (h.nearest s hy).2 (fun heq => hne (congrArg _ heq)) heq
    unfold carry
    split
    · exact ⟨2 ^ 51, by norm_num⟩
    · exact heven

end Grid

theorem exists_grid (s : Bool) (num : ℕ) {den : ℕ} (hden : 0 < den) :
    ∃ m e, Grid (num / den) m e ∧ ofRatio s num den =
      if (carry s m e).exponent ≤ 971 then some (carry s m e) else none := by
  by_cases hnum : num = 0
  · subst hnum
    refine ⟨0, -1074, ?_, rfl⟩
    rw [Nat.cast_zero, zero_div]
    exact ⟨⟨by norm_num, fun _ => Even.zero⟩, le_rfl, by positivity,
      fun h => absurd h (lt_irrefl _)⟩
  · obtain ⟨hge, hlt⟩ := ratioLog2_bounds hnum hden.ne'
    obtain ⟨e, he⟩ : ∃ e, e = max (ratioLog2 num den - 52) (-1074) := ⟨_, rfl⟩
    refine ⟨roundHalfEven (num * twoPow (-e).toNat) (den * twoPow e.toNat), e,
      ⟨?_, ?_, ?_, ?_⟩, ?_⟩
    · have hround := roundsTo_roundHalfEven (num * twoPow (-e).toNat)
        (Nat.mul_pos hden (twoPow_pos e.toNat))
      rw [← twoPow_div_twoPow e, div_div_eq_mul_div, div_mul_eq_mul_div, div_div]
      push_cast at hround
      exact hround
    · omega
    · exact hlt.trans_le (zpow_le_zpow_right₀ one_le_two (by omega))
    · intro hnormal
      have hexp : e + 52 = ratioLog2 num den := by omega
      rw [hexp]
      exact hge
    · subst he
      rw [ofRatio, if_neg hnum]
      rfl

/-- A ratio becomes the nearest double, and none only if it is out of range. -/
theorem ofRatio_spec (s : Bool) (num : ℕ) {den : ℕ} (hden : 0 < den) :
    (∀ x, ofRatio s num den = some x → x.IsNearest (sign s * (num / den))) ∧
    (ofRatio s num den = none → range ≤ |sign s * ((num : ℚ) / den)|) := by
  obtain ⟨m, e, hgrid, hratio⟩ := exists_grid s num hden
  have hq : (0 : ℚ) ≤ num / den := by positivity
  rw [hratio, abs_mul, abs_sign, one_mul, abs_of_nonneg hq]
  constructor
  · intro x hx
    obtain ⟨hle, hx⟩ := Option.ite_none_right_eq_some.mp hx
    cases hx
    exact hgrid.isNearest_carry hq s hle
  · intro hnone
    by_contra hlt
    rw [if_pos ((hgrid.lt_range_iff s).mp (not_le.mp hlt))] at hnone
    cases hnone

theorem sign_mul_natAbs_div (q : ℚ) : sign (decide (q < 0)) * ((q.num.natAbs : ℚ) / q.den) = q := by
  have hq := Rat.num_div_den q
  rw [Nat.cast_natAbs, sign]
  by_cases hneg : q < 0
  · have hnum : q.num < 0 := Rat.num_neg.mpr hneg
    simpa [hneg, abs_of_neg hnum, neg_div] using hq
  · have hnum : 0 ≤ q.num := Rat.num_nonneg.mpr (not_lt.mp hneg)
    simpa [hneg, abs_of_nonneg hnum] using hq

theorem IsNearest.value_eq {x y : Binary64} {q : ℚ} (hx : x.IsNearest q) (hy : y.IsNearest q) :
    x.value = y.value := by
  obtain ⟨m, e, hgrid, -⟩ := exists_grid (decide (q < 0)) q.num.natAbs q.den_pos
  have hp : (0 : ℚ) ≤ q.num.natAbs / q.den := by positivity
  have hqp := sign_mul_natAbs_div q
  generalize decide (q < 0) = s at hqp
  generalize (q.num.natAbs : ℚ) / q.den = p at hgrid hp hqp
  have hrange : p < range := by
    have habs := hx.inRange
    rwa [← hqp, abs_mul, abs_sign, one_mul, abs_of_nonneg hp] at habs
  have hcarry := hgrid.isNearest_carry hp s ((hgrid.lt_range_iff s).mp hrange)
  rw [hqp] at hcarry
  have hvalue {z : Binary64} (hz : z.IsNearest q) : z.value = (carry s m e).value := by
    by_contra hne
    have heven := hz.even _ hcarry.canonical (Ne.symm hne)
      (le_antisymm (hcarry.le z hz.canonical) (hz.le _ hcarry.canonical))
    have hle := hz.le _ hcarry.canonical
    rw [value_carry, ← hqp, abs_sign_mul_sub, ← one_mul z.value, ← sign_mul_self s, mul_assoc,
      abs_sign_mul_sub] at hle
    apply hne
    rw [value_carry, ← hgrid.eq_of_even s hz.canonical heven hle, ← mul_assoc, sign_mul_self,
      one_mul]
  rw [hvalue hx, hvalue hy]

/-- An integer becomes the nearest double, and zero only if it is out of range. -/
theorem ofInt_spec (i : ℤ) :
    (|(i : ℚ)| < range → (ofInt i).IsNearest i) ∧ (range ≤ |(i : ℚ)| → ofInt i = zero false) := by
  have hi : sign (decide (i < 0)) * ((i.natAbs : ℚ) / (1 : ℕ)) = i := by
    rw [Nat.cast_one, div_one, Nat.cast_natAbs, sign]
    by_cases hneg : i < 0
    · simp [hneg, abs_of_neg hneg]
    · simp [hneg, abs_of_nonneg (not_lt.mp hneg)]
  obtain ⟨hsome, hnone⟩ := ofRatio_spec (decide (i < 0)) i.natAbs Nat.one_pos
  rw [hi] at hsome hnone
  rw [ofInt]
  cases hx : ofRatio (decide (i < 0)) i.natAbs 1 with
  | none => exact ⟨fun hlt => absurd (hnone hx) (not_le.mpr hlt), fun _ => rfl⟩
  | some x =>
    have hnearest := hsome x hx
    exact ⟨fun _ => hnearest, fun hge => absurd hnearest.inRange (not_lt.mpr hge)⟩

end Binary64

namespace Decimal

def value (d : Decimal) : ℚ :=
  Binary64.sign d.negative * (d.coefficient * 10 ^ d.exponent)

theorem digitCount_bounds {n : ℕ} (hn : n ≠ 0) :
    (10 : ℚ) ^ ((digitCount n : ℤ) - 1) ≤ n ∧ (n : ℚ) < 10 ^ (digitCount n : ℤ) := by
  have hpos : 0 < digitCount n := List.length_pos_iff.mpr Nat.toDigits_ne_nil
  have hlt : n < 10 ^ digitCount n :=
    (Nat.length_toDigits_le_iff (by norm_num) hpos).mp le_rfl
  have hge : 10 ^ (digitCount n - 1) ≤ n := by
    obtain hone | hmore := Nat.eq_or_lt_of_le (Nat.succ_le_of_lt hpos)
    · rw [← hone]
      exact Nat.pos_of_ne_zero hn
    · by_contra hsmall
      have hle := (Nat.length_toDigits_le_iff (b := 10) (by norm_num) (by omega)).mpr
        (not_le.mp hsmall)
      exact absurd hle (not_le.mpr (Nat.sub_one_lt_of_lt hpos))
  have hcast : (digitCount n : ℤ) - 1 = ((digitCount n - 1 : ℕ) : ℤ) := by omega
  rw [hcast]
  constructor
  · exact_mod_cast hge
  · exact_mod_cast hlt

theorem tenPow_div_tenPow (e : ℤ) : (tenPow e.toNat : ℚ) / tenPow (-e).toNat = 10 ^ e := by
  simpa [tenPow] using Binary64.pow_toNat_div 10 e

/-- Below half of the smallest double there is only zero to round to. -/
theorem grid_zero {q : ℚ} (hq : 0 ≤ q) (hsmall : q < 10 ^ (-324 : ℤ)) :
    Binary64.Grid q 0 (-1074) := by
  have hhalf : q < 1 / 2 * 2 ^ (-1074 : ℤ) := by
    have hpow : 2 * 2 ^ 1074 ≤ 10 ^ 324 := by decide +kernel
    refine hsmall.trans_le ?_
    rw [zpow_neg, zpow_neg, one_div, ← mul_inv, inv_le_inv₀ (by positivity) (by positivity)]
    exact_mod_cast hpow
  have hdiv : q / 2 ^ (-1074 : ℤ) < 1 / 2 := (div_lt_iff₀ (by positivity)).mpr hhalf
  have hdiv' : 0 ≤ q / (2 : ℚ) ^ (-1074 : ℤ) := by positivity
  refine ⟨⟨?_, fun _ => Even.zero⟩, le_rfl, ?_, fun h => absurd h (lt_irrefl _)⟩
  · rw [Nat.cast_zero, zero_sub, abs_neg, abs_of_nonneg hdiv']
    exact hdiv.le
  · refine hhalf.trans_le ?_
    rw [zpow_add₀ two_ne_zero, mul_comm]
    exact mul_le_mul_of_nonneg_left (by norm_num) (by positivity)

/-- A decimal number becomes the nearest double, and none only if it is out of range. -/
theorem toBinary64?_spec (d : Decimal) :
    (∀ x, d.toBinary64? = some x → x.IsNearest d.value) ∧
    (d.toBinary64? = none → Binary64.range ≤ |d.value|) := by
  have hq : (0 : ℚ) ≤ d.coefficient * 10 ^ d.exponent := by positivity
  have habs : |d.value| = d.coefficient * 10 ^ d.exponent := by
    rw [value, abs_mul, Binary64.abs_sign, one_mul, abs_of_nonneg hq]
  rw [habs, toBinary64?]
  split
  · rename_i hzero
    refine ⟨fun x hx => ?_, nofun⟩
    cases hx
    have hgrid : Binary64.Grid (d.coefficient * 10 ^ d.exponent) 0 (-1074) := by
      refine grid_zero hq ?_
      by_cases hc : d.coefficient = 0
      · rw [hc, Nat.cast_zero, zero_mul]
        positivity
      · have htop := hzero.resolve_left hc
        calc (d.coefficient : ℚ) * 10 ^ d.exponent
            < 10 ^ (digitCount d.coefficient : ℤ) * 10 ^ d.exponent := by
              gcongr
              exact (digitCount_bounds hc).2
          _ = 10 ^ ((digitCount d.coefficient : ℤ) + d.exponent) :=
              (zpow_add₀ (by norm_num) _ _).symm
          _ ≤ 10 ^ (-324 : ℤ) := zpow_le_zpow_right₀ (by norm_num) htop
    have hexponent : (Binary64.carry d.negative 0 (-1074)).exponent ≤ 971 :=
      show (-1074 : ℤ) ≤ 971 by norm_num
    exact hgrid.isNearest_carry hq d.negative hexponent
  · rename_i hnonzero
    obtain ⟨hc, -⟩ := not_or.mp hnonzero
    split
    · rename_i htop
      have hpow : 2 ^ 53 * 2 ^ 971 ≤ 10 ^ 309 := by decide +kernel
      refine ⟨nofun, fun _ => ?_⟩
      calc Binary64.range ≤ 2 ^ 53 * 2 ^ (971 : ℤ) :=
            mul_le_mul_of_nonneg_right (by norm_num) (by positivity)
        _ ≤ 10 ^ (309 : ℤ) := by exact_mod_cast hpow
        _ ≤ 10 ^ ((digitCount d.coefficient : ℤ) - 1 + d.exponent) :=
            zpow_le_zpow_right₀ (by norm_num) (by omega)
        _ = 10 ^ ((digitCount d.coefficient : ℤ) - 1) * 10 ^ d.exponent :=
            zpow_add₀ (by norm_num) _ _
        _ ≤ d.coefficient * 10 ^ d.exponent := by
            gcongr
            exact (digitCount_bounds hc).1
    · have hratio : ((d.coefficient * tenPow d.exponent.toNat : ℕ) : ℚ) /
          tenPow (-d.exponent).toNat = d.coefficient * 10 ^ d.exponent := by
        rw [Nat.cast_mul, mul_div_assoc, tenPow_div_tenPow]
      have hspec := Binary64.ofRatio_spec d.negative (d.coefficient * tenPow d.exponent.toNat)
        (tenPow_pos (-d.exponent).toNat)
      rw [hratio, abs_mul, Binary64.abs_sign, one_mul, abs_of_nonneg hq] at hspec
      exact hspec

end Decimal
end Switchboard
