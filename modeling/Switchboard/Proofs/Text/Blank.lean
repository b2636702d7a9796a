import Mathlib.Data.List.TakeWhile
import Switchboard.Text.Blank

/-!
# Switchboard.Proofs.Text.Blank

What trimming a text drops: the blanks at its ends, and nothing else.
-/

namespace Switchboard
namespace Text

theorem isBlank_of_isDigit {c : Char} (h : c.isDigit = true) : isBlank c = false := by
  have hrange : 48 ≤ c.toNat ∧ c.toNat ≤ 57 := by
    simpa [Char.isDigit, UInt32.le_iff_toNat_le] using h
  simp only [isBlank, Bool.or_eq_false_iff, Bool.and_eq_false_iff, decide_eq_false_iff_not,
    beq_eq_false_iff_ne]
  omega

variable {before core after : List Char}

/-- Blanks at the ends are dropped. -/
theorem trim_append (hbefore : ∀ c ∈ before, isBlank c = true)
    (hafter : ∀ c ∈ after, isBlank c = true) (hcore : ∀ c ∈ core, isBlank c = false) :
    trim (before ++ (core ++ after)) = core := by
  have hleft : (core ++ after).dropWhile isBlank = core ++ after ∨ core = [] := by
    cases core with
    | nil => exact .inr rfl
    | cons c core =>
      have hc : ¬ isBlank c = true := by simp [hcore c List.mem_cons_self]
      exact .inl (List.dropWhile_cons_of_neg hc)
  have hright : (core ++ after).reverse.dropWhile isBlank = core.reverse := by
    rw [List.reverse_append, List.dropWhile_append_of_pos (by simpa using hafter)]
    cases hrev : core.reverse with
    | nil => rfl
    | cons c rest =>
      have hmem : c ∈ core := by
        rw [← List.mem_reverse, hrev]
        exact List.mem_cons_self
      have hc : ¬ isBlank c = true := by simp [hcore c hmem]
      exact List.dropWhile_cons_of_neg hc
  rw [trim, List.dropWhile_append_of_pos hbefore]
  obtain hdrop | rfl := hleft
  · rw [hdrop, hright, List.reverse_reverse]
  · rw [List.nil_append, List.dropWhile_eq_nil_iff.mpr hafter]
    rfl

/-- Nothing else is dropped. -/
theorem exists_trim (cs : List Char) : ∃ before after, cs = before ++ (trim cs ++ after) ∧
    (∀ c ∈ before, isBlank c = true) ∧ ∀ c ∈ after, isBlank c = true := by
  refine ⟨cs.takeWhile isBlank, ((cs.dropWhile isBlank).reverse.takeWhile isBlank).reverse, ?_,
    fun _ => List.mem_takeWhile_imp, fun c hc => List.mem_takeWhile_imp (List.mem_reverse.mp hc)⟩
  rw [trim, ← List.reverse_append, List.takeWhile_append_dropWhile, List.reverse_reverse,
    List.takeWhile_append_dropWhile]

end Text
end Switchboard
