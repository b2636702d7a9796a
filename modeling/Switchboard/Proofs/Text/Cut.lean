import Mathlib.Data.List.Infix
import Mathlib.Data.List.TakeWhile

/-!
# Switchboard.Proofs.Text.Cut

Cutting a text at the first place where a character stands, and gluing it together again.
-/

namespace Switchboard
namespace Text

variable {c x : Char} {cs front rest : List Char}

theorem isPrefixOf?_append (front rest : List Char) :
    front.isPrefixOf? (front ++ rest) = some rest := by
  rw [List.isPrefixOf?_eq_some_iff_append_eq]

theorem not_mem_takeWhile_ne : c ∉ cs.takeWhile (· ≠ c) := by
  intro h
  simpa using List.mem_takeWhile_imp h

theorem takeWhile_ne_append_of_dropWhile (h : cs.dropWhile (· ≠ c) = x :: rest) :
    cs.takeWhile (· ≠ c) ++ c :: rest = cs := by
  have hx : x = c := by
    have hhead := List.head?_dropWhile_not (· ≠ c) cs
    rw [h] at hhead
    simpa using hhead
  have hcs := List.takeWhile_append_dropWhile (p := (· ≠ c)) (l := cs)
  rwa [h, hx] at hcs

theorem takeWhile_ne_append_cons (h : c ∉ front) :
    (front ++ c :: rest).takeWhile (· ≠ c) = front := by
  rw [List.takeWhile_append_of_pos, List.takeWhile_cons_of_neg, List.append_nil]
  · simp
  · intro a ha
    simpa using ne_of_mem_of_not_mem ha h

theorem dropWhile_ne_append_cons (h : c ∉ front) :
    (front ++ c :: rest).dropWhile (· ≠ c) = c :: rest := by
  rw [List.dropWhile_append_of_pos, List.dropWhile_cons_of_neg]
  · simp
  · intro a ha
    simpa using ne_of_mem_of_not_mem ha h

end Text
end Switchboard
