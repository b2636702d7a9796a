import Mathlib.Data.List.Basic
import Switchboard.Json.Value

/-!
# Switchboard.Proofs.Number.Text

The text of a number is never empty, and there is no blank in it: it is made of digits, signs, a
point and an `e`.
-/

namespace Switchboard

def IsNumeral (c : Char) : Prop := c.isDigit = true ∨ c ∈ ['-', '+', '.', 'e']

theorem IsNumeral.ne_blank {c : Char} (h : IsNumeral c) : c ≠ ' ' := by
  rintro rfl
  exact absurd h (by unfold IsNumeral; decide)

theorem isNumeral_of_mem_toDigits {n : Nat} {c : Char} (h : c ∈ Nat.toDigits 10 n) :
    IsNumeral c :=
  .inl (Nat.isDigit_of_mem_toDigits (by decide) (by decide) h)

namespace Binary64

variable {ds : List Char} {e : Int}

theorem layOut_ne_nil : layOut ds e ≠ [] := by
  unfold layOut
  split
  · simp
  · split
    · dsimp only
      split <;> simp
    · simp

theorem isNumeral_layOut (hds : ∀ c ∈ ds, IsNumeral c) : ∀ c ∈ layOut ds e, IsNumeral c := by
  have hzero : IsNumeral '0' := .inl rfl
  have hpoint : IsNumeral '.' := .inr (by decide)
  have hexponent : IsNumeral 'e' := .inr (by decide)
  have hsign : IsNumeral (if e < 0 then '-' else '+') := by
    split <;> exact .inr (by decide)
  have hzeros (n : Nat) : ∀ c ∈ List.replicate n '0', IsNumeral c := by
    intro c hc
    rw [List.eq_of_mem_replicate hc]
    exact hzero
  have hdigits (n : Nat) : ∀ c ∈ Nat.toDigits 10 n, IsNumeral c :=
    fun _ => isNumeral_of_mem_toDigits
  unfold layOut
  split
  · simp only [List.cons_append, List.forall_mem_cons, List.forall_mem_append]
    exact ⟨hzero, hpoint, hzeros _, hds⟩
  · split
    · dsimp only
      split
      · simp only [List.forall_mem_cons, List.forall_mem_append]
        exact ⟨⟨hds, hzeros _⟩, hpoint, hzero, List.forall_mem_nil _⟩
      · simp only [List.forall_mem_cons, List.forall_mem_append]
        exact ⟨fun c hc => hds c (List.mem_of_mem_take hc), hpoint,
          fun c hc => hds c (List.mem_of_mem_drop hc)⟩
    · simp only [List.forall_mem_cons, List.forall_mem_append]
      refine ⟨?_, hexponent, hsign, hdigits _⟩
      split
      · rename_i d rest
        obtain ⟨hd, hrest⟩ := List.forall_mem_cons.mp hds
        split
        · exact List.forall_mem_singleton.mpr hd
        · exact List.forall_mem_cons.mpr ⟨hd, List.forall_mem_cons.mpr ⟨hpoint, hrest⟩⟩
      · exact List.forall_mem_nil _

theorem isNumeral_trimZeros (hds : ∀ c ∈ ds, IsNumeral c) : ∀ c ∈ trimZeros ds, IsNumeral c := by
  intro c hc
  rw [trimZeros, List.mem_reverse] at hc
  exact hds c (List.mem_reverse.mp ((List.dropWhile_suffix _).subset hc))

end Binary64

namespace Number

/-- The text is the text of the magnitude, perhaps with a minus sign. -/
theorem exists_toList_text (n : Number) : ∃ (negative : Bool) (body : List Char),
    body ≠ [] ∧ (∀ c ∈ body, IsNumeral c) ∧
      n.text.toList = if negative then '-' :: body else body := by
  have hdigits (m : Nat) : Nat.toDigits 10 m ≠ [] ∧ ∀ c ∈ Nat.toDigits 10 m, IsNumeral c :=
    ⟨Nat.toDigits_ne_nil, fun _ => isNumeral_of_mem_toDigits⟩
  cases n with
  | integer i =>
    cases i with
    | ofNat m => exact ⟨false, _, (hdigits m).1, (hdigits m).2, String.toList_ofList⟩
    | negSucc m =>
      refine ⟨true, _, (hdigits (m + 1)).1, (hdigits (m + 1)).2, ?_⟩
      have htext : text (.integer (.negSucc m)) = "-" ++ (m + 1).repr := rfl
      have hminus : "-".toList = ['-'] := rfl
      rw [htext, String.toList_append, hminus, Nat.repr_eq_ofList_toDigits, String.toList_ofList,
        if_pos rfl, List.singleton_append]
  | float x =>
    have hzero : ∀ c ∈ ['0', '.', '0'], IsNumeral c := by simp [IsNumeral]
    rw [text, Binary64.text]
    refine ⟨x.negative, _, ?_, ?_, String.toList_ofList⟩
    · split
      · exact List.cons_ne_nil _ _
      · exact Binary64.layOut_ne_nil
    · split
      · exact hzero
      · exact Binary64.isNumeral_layOut (Binary64.isNumeral_trimZeros (hdigits _).2)

theorem isNumeral_text (n : Number) : ∀ c ∈ n.text.toList, IsNumeral c := by
  obtain ⟨negative, body, -, hbody, htext⟩ := n.exists_toList_text
  rw [htext]
  split
  · exact List.forall_mem_cons.mpr ⟨.inr (by decide), hbody⟩
  · exact hbody

theorem blank_not_mem_text (n : Number) : ' ' ∉ n.text.toList :=
  fun h => (n.isNumeral_text _ h).ne_blank rfl

theorem text_ne_empty (n : Number) : n.text ≠ "" := by
  intro h
  obtain ⟨negative, body, hne, -, htext⟩ := n.exists_toList_text
  rw [h, String.toList_empty] at htext
  split at htext
  · cases htext
  · exact hne htext.symm

end Number

end Switchboard
