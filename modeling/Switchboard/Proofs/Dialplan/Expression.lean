import Mathlib.Data.List.Infix
import Switchboard.Dialplan.Pattern

/-!
# Switchboard.Proofs.Dialplan.Expression

What the expression for a dialed number means to a reader of regular expressions. `Expression.read?`
knows the anchors, the bar between alternatives, an optional plus sign and characters that stand for
themselves, with or without a backslash; an expression that uses any other operator is not read.
`Expression.finds` searches a subject for a match.

No character of a number is left to be an operator (`read?_escape`), so both alternatives are
anchored runs of its characters, and `ofNumber_finds_both_forms` says what they find.
-/

namespace Switchboard
namespace Pattern

inductive Part where
  /-- The beginning of the subject. -/
  | first
  /-- The end of the subject. -/
  | last
  /-- A plus sign, or nothing. -/
  | plus?
  | char (c : Char)
deriving DecidableEq

/-- The alternatives, each a sequence of parts. -/
abbrev Expression := List (List Part)

/-- The characters that do not stand for themselves in an expression. -/
def isOperator (c : Char) : Bool := "\\.+*?()|[]\x7b\x7d^$".toList.contains c

namespace Expression

def push (p : Part) : Expression → Expression
  | [] => [[p]]
  | alternative :: others => (p :: alternative) :: others

/-- Reads an expression. A backslash makes operators of letters and digits; these are not read. -/
def read? : List Char → Option Expression
  | [] => some [[]]
  | '^' :: cs => (read? cs).map (push .first)
  | '$' :: cs => (read? cs).map (push .last)
  | '|' :: cs => (read? cs).map ([] :: ·)
  | '\\' :: '+' :: '?' :: cs => (read? cs).map (push .plus?)
  | '\\' :: c :: cs => if c.isAlphanum then none else (read? cs).map (push (.char c))
  | c :: cs => if isOperator c then none else (read? cs).map (push (.char c))

/-- Whether parts match at a place of a subject; `cs` follows the place, and `atStart` says whether
nothing comes before it. -/
def matchesAt (atStart : Bool) : List Part → List Char → Bool
  | [], _ => true
  | .first :: ps, cs => atStart && matchesAt atStart ps cs
  | .last :: ps, cs => cs.isEmpty && matchesAt atStart ps cs
  | .plus? :: ps, '+' :: cs => matchesAt false ps cs || matchesAt atStart ps ('+' :: cs)
  | .plus? :: ps, cs => matchesAt atStart ps cs
  | .char c :: ps, d :: cs => d == c && matchesAt false ps cs
  | .char _ :: _, [] => false

def finds (e : Expression) (subject : List Char) : Bool :=
  e.any fun ps => matchesAt true ps subject || subject.tails.tail.any (matchesAt false ps)

/-! ## Reading -/

theorem read?_escaped {c : Char} (hplus : c ≠ '+') (hc : c.isAlphanum = false) (cs : List Char) :
    read? ('\\' :: c :: cs) = (read? cs).map (push (.char c)) := by
  simp [read?, hplus, hc]

theorem read?_plain {c : Char} (hc : isOperator c = false) (cs : List Char) :
    read? (c :: cs) = (read? cs).map (push (.char c)) := by
  have hne : ∀ d, isOperator d = true → c ≠ d := by
    rintro d hd rfl
    simp [hc] at hd
  simp [read?, hc, hne '^' rfl, hne '$' rfl, hne '|' rfl, hne '\\' rfl]

theorem isOperator_of_not_special {c : Char} (h : isSpecial c = false) : isOperator c = false := by
  simp_all [isSpecial, isOperator]

theorem isAlphanum_of_special {c : Char} (h : isSpecial c = true) : c.isAlphanum = false := by
  have hall : ("\\.+*?()|[]\x7b\x7d^$#&-~".toList.all fun d => !d.isAlphanum) = true := by decide
  simpa using List.all_eq_true.mp hall c (List.contains_iff_mem.mp h)

/-- An escaped text is read as its characters, whatever comes after it. -/
theorem read?_escape {cs rest : List Char} {alternative : List Part} {others : Expression}
    (hplus : '+' ∉ cs) (hrest : read? rest = some (alternative :: others)) :
    read? (escape cs ++ rest) = some ((cs.map .char ++ alternative) :: others) := by
  induction cs with
  | nil => exact hrest
  | cons c cs ih =>
    rw [List.mem_cons, not_or] at hplus
    obtain ⟨hc, hcs⟩ := hplus
    have hread : read? (escape (c :: cs) ++ rest) =
        (read? (escape cs ++ rest)).map (push (.char c)) := by
      cases hspecial : isSpecial c with
      | true =>
        have hescape : escape (c :: cs) ++ rest = '\\' :: c :: (escape cs ++ rest) := by
          simp [escape, hspecial]
        rw [hescape, read?_escaped (Ne.symm hc) (isAlphanum_of_special hspecial)]
      | false =>
        have hescape : escape (c :: cs) ++ rest = c :: (escape cs ++ rest) := by
          simp [escape, hspecial]
        rw [hescape, read?_plain (isOperator_of_not_special hspecial)]
    rw [hread, ih hcs]
    rfl

/-! ## Searching -/

theorem matchesAt_chars_last (atStart : Bool) (n cs : List Char) :
    matchesAt atStart (n.map .char ++ [.last]) cs = true ↔ cs = n := by
  induction n generalizing atStart cs with
  | nil => simp [matchesAt]
  | cons c n ih =>
    cases cs with
    | nil => simp [matchesAt]
    | cons d cs => simp [matchesAt, ih]

theorem matchesAt_plus (atStart : Bool) (ps : List Part) (cs : List Char) :
    matchesAt atStart (.plus? :: ps) cs = true ↔
      (∃ rest, cs = '+' :: rest ∧ matchesAt false ps rest = true) ∨
        matchesAt atStart ps cs = true := by
  conv_lhs => unfold matchesAt
  split <;> simp_all

theorem finds_first (e : Expression) (subject : List Char) :
    finds (e.map (.first :: ·)) subject = e.any fun ps => matchesAt true ps subject := by
  have hlater (ps : List Part) :
      subject.tails.tail.any (matchesAt false (.first :: ps)) = false :=
    List.any_eq_false.mpr fun _ _ => Bool.false_ne_true
  simp only [finds, List.any_map, Function.comp_def, hlater, Bool.or_false]
  rfl

end Expression

/-! ## The expression for a number -/

/-- The alternatives for these characters: an optional plus sign and the characters, and the
characters alone, each from the beginning of the subject to its end. -/
def bothForms (n : List Char) : Expression :=
  [.plus? :: (n.map .char ++ [.last]), n.map .char ++ [.last]].map (.first :: ·)

theorem finds_bothForms (n subject : List Char) :
    (bothForms n).finds subject = true ↔ subject = n ∨ subject = '+' :: n := by
  rw [bothForms, Expression.finds_first]
  simp only [List.any_cons, List.any_nil, Bool.or_false, Bool.or_eq_true,
    Expression.matchesAt_plus, Expression.matchesAt_chars_last, exists_eq_right]
  tauto

theorem bothForms_inj {n n' : List Char} : bothForms n = bothForms n' ↔ n = n' := by
  have hchar : ∀ c c', Part.char c = .char c' → c = c' := fun _ _ h => Part.char.inj h
  simp [bothForms, List.map_inj_right hchar]

/-- A number without what only lays it out: plus signs, hyphens, parentheses, points and blanks. -/
def bare (number : String) : String :=
  String.ofList
    (number.toList.filter fun c => c ∉ ['+', '-', '(', ')', '.'] ∧ ¬ Text.isBlank c)

theorem toList_bare (number : String) : (bare number).toList = normalize number.toList := by
  rw [bare, String.toList_ofList]
  apply List.filter_congr
  intro c _
  rw [Bool.eq_iff_iff]
  simp [isLayout, and_assoc]

theorem plus_not_mem_normalize (number : List Char) : '+' ∉ normalize number := by
  simp [normalize, isLayout]

theorem ofNumber_eq (number : String) :
    ofNumber number = String.ofList ("^\\+?".toList ++ escape (normalize number.toList) ++
      "$|^".toList ++ escape (normalize number.toList) ++ ['$']) := by
  unfold ofNumber
  dsimp only

theorem toList_ofNumber (number : String) :
    (ofNumber number).toList = '^' :: '\\' :: '+' :: '?' :: (escape (normalize number.toList) ++
      '$' :: '|' :: '^' :: (escape (normalize number.toList) ++ ['$'])) := by
  have hopen : "^\\+?".toList = ['^', '\\', '+', '?'] := rfl
  have hbar : "$|^".toList = ['$', '|', '^'] := rfl
  rw [ofNumber_eq, String.toList_ofList, hopen, hbar]
  simp only [List.append_assoc, List.cons_append, List.nil_append]

/-- Whatever the number is, its own characters are read from its expression, in both forms. -/
theorem read?_ofNumber (number : String) :
    Expression.read? (ofNumber number).toList = some (bothForms (normalize number.toList)) := by
  have hplus := plus_not_mem_normalize number.toList
  have hend : Expression.read? ['$'] = some [[.last]] := rfl
  have hlast := Expression.read?_escape hplus hend
  have hmiddle :
      Expression.read? ('$' :: '|' :: '^' :: (escape (normalize number.toList) ++ ['$'])) =
        some [[.last], .first :: ((normalize number.toList).map .char ++ [.last])] := by
    simp only [Expression.read?, hlast]
    rfl
  have hfirst := Expression.read?_escape hplus hmiddle
  rw [toList_ofNumber]
  simp only [Expression.read?, hfirst]
  rfl

/-- The expression for a number finds the number without its layout, with a plus sign in front or
without, and nothing else: none of its characters is an operator. So the numbers of one expression
are those that differ in their layout. -/
theorem ofNumber_finds_both_forms (number : String) :
    (∃ e, Expression.read? (ofNumber number).toList = some e ∧
      e = bothForms (bare number).toList ∧
      ∀ s : String, e.finds s.toList = true ↔ s = bare number ∨ s = "+" ++ bare number) ∧
    ∀ other, ofNumber other = ofNumber number ↔ bare other = bare number := by
  refine ⟨⟨_, (read?_ofNumber number).trans (by rw [toList_bare]), rfl, fun s => ?_⟩,
    fun other => ?_⟩
  · have hplus : ("+" ++ bare number).toList = '+' :: (bare number).toList := by simp
    rw [finds_bothForms, ← String.toList_inj, ← String.toList_inj, hplus]
  · have hbare : bare other = bare number ↔
        normalize other.toList = normalize number.toList := by
      rw [← toList_bare, ← toList_bare, String.toList_inj]
    rw [hbare]
    constructor
    · intro h
      have hread := read?_ofNumber other
      rw [h, read?_ofNumber number] at hread
      exact (bothForms_inj.mp (Option.some.inj hread)).symm
    · intro h
      rw [ofNumber_eq, ofNumber_eq, h]

example : (Expression.read? (ofNumber "sip:(a|b)*").toList).map
    (fun e => (e.finds "+sip:a|b*".toList, e.finds "sip:a".toList)) = some (true, false) := by
  decide

end Pattern
end Switchboard
