import Switchboard.Uuid.Basic
import Mathlib.Tactic.IntervalCases
import Mathlib.Tactic.Ring

/-!
# Switchboard.Proofs.Uuid

The text of an id holds the whole id: reading its digits gives the id back (`ofText?_text`). The
text is made of hexadecimal digits and hyphens (`mem_text`), so it needs no escaping anywhere.
-/

namespace Switchboard
namespace Uuid

/-- The id that the digits of a text spell; hyphens only group them. -/
def ofText? (s : String) : Option Uuid :=
  (readDigits 0 (s.toList.filter (· ≠ '-'))).map fun n => ⟨BitVec.ofNat 128 n⟩

theorem digit_eq (u : Uuid) (i : Nat) :
    u.digit i = Nat.digitChar (u.value.toNat / 16 ^ i % 16) := by
  rw [digit, BitVec.extractLsb'_toNat, Nat.shiftRight_eq_div_pow, Nat.pow_mul]

theorem digits_append (u : Uuid) {first middle last : Nat} (h₁ : middle ≤ first)
    (h₂ : last ≤ middle) : u.digits first middle ++ u.digits middle last = u.digits first last := by
  have hlen : first - last = (first - middle) + (middle - last) := by omega
  rw [digits, digits, digits, hlen, List.range_add, List.map_append, List.map_map]
  congr 1
  apply List.map_congr_left
  intro i hi
  rw [List.mem_range] at hi
  have hplace : middle - 1 - i = first - 1 - (first - middle + i) := by omega
  simp only [Function.comp_apply, hplace]

theorem digits_succ (u : Uuid) (k : Nat) : u.digits (k + 1) 0 = u.digit k :: u.digits k 0 := by
  rw [← u.digits_append (Nat.le_succ k) (Nat.zero_le k)]
  simp [digits]

theorem digitChar_ne_hyphen {m : Nat} (h : m < 16) : Nat.digitChar m ≠ '-' := by
  interval_cases m <;> decide

theorem readDigits_digitChar {m : Nat} (h : m < 16) (n : Nat) (cs : List Char) :
    readDigits n (Nat.digitChar m :: cs) = readDigits (16 * n + m) cs := by
  interval_cases m <;> rfl

theorem readDigits_digits (u : Uuid) (n k : Nat) :
    readDigits n (u.digits k 0) = some (n * 16 ^ k + u.value.toNat % 16 ^ k) := by
  -- `n` is what has been read before the last `k` digits.
  induction k generalizing n with
  | zero => simp [digits, readDigits, Nat.mod_one]
  | succ k ih =>
    rw [digits_succ, digit_eq, readDigits_digitChar (Nat.mod_lt _ (by decide)), ih,
      Nat.mod_pow_succ, Nat.pow_succ]
    congr 1
    ring

theorem mem_digits {u : Uuid} {first last : Nat} {c : Char} (h : c ∈ u.digits first last) :
    ∃ m < 16, c = Nat.digitChar m := by
  obtain ⟨i, -, rfl⟩ := List.mem_map.mp h
  exact ⟨_, Nat.mod_lt _ (by decide), u.digit_eq _⟩

theorem mem_text {u : Uuid} {c : Char} (h : c ∈ u.text.toList) :
    c = '-' ∨ ∃ m < 16, c = Nat.digitChar m := by
  simp only [text, String.toList_ofList, List.mem_append, List.mem_cons] at h
  obtain ((((h | rfl | h) | rfl | h) | rfl | h) | rfl | h) := h
  all_goals first | exact .inl rfl | exact .inr (mem_digits h)

theorem filter_digits (u : Uuid) (first last : Nat) :
    (u.digits first last).filter (· ≠ '-') = u.digits first last := by
  rw [List.filter_eq_self]
  intro c hc
  obtain ⟨m, hm, rfl⟩ := mem_digits hc
  rw [decide_eq_true_eq]
  exact digitChar_ne_hyphen hm

/-- Without the hyphens, the text is all digits in a row. -/
theorem filter_text (u : Uuid) : u.text.toList.filter (· ≠ '-') = u.digits 32 0 := by
  have hhyphen : ∀ cs, ('-' :: cs).filter (· ≠ '-') = cs.filter (· ≠ '-') := fun _ => rfl
  rw [text, String.toList_ofList]
  simp only [List.filter_append, hhyphen, filter_digits]
  rw [digits_append, digits_append, digits_append, digits_append] <;> decide

theorem ofText?_text (u : Uuid) : ofText? u.text = some u := by
  rw [ofText?, filter_text, readDigits_digits]
  have h : u.value.toNat % 16 ^ 32 = u.value.toNat := Nat.mod_eq_of_lt u.value.isLt
  rw [Nat.zero_mul, Nat.zero_add, h, Option.map_some, BitVec.ofNat_toNat, BitVec.setWidth_eq]

end Uuid
end Switchboard
