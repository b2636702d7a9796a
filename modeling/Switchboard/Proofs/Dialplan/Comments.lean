import Mathlib.Data.List.Infix
import Switchboard.Proofs.Dialplan.Reading

/-!
# Switchboard.Proofs.Dialplan.Comments

Where a comment of a dialplan document ends. XML has no two hyphens together inside a comment and
none at its end (`Xml.IsCommentText`); a parser stops at the first two and takes them for the end
(`Xml.commentEnd?`). Hyphens are parted two by two from the left, and a third one stands beside the
second as before.

* `Xml.infix_partHyphens_iff`: two hyphens together are written just where three were together.
* `Xml.commentEnd?_eq_some_iff`: a parser finds the end of just the texts that a comment may have.
* `Dialplan.comment_ends_iff`: which comments of a document end where they are closed.
* `Dialplan.comments_of_flows_end`: all comments in the dialplan of a flow do.
-/

namespace Switchboard
namespace Xml

/-- What may stand between the marks of a comment. -/
def IsCommentText (cs : List Char) : Prop := ¬ ['-', '-'] <:+: cs ∧ cs.getLast? ≠ some '-'

/-- The text of a comment that has been opened, and what follows its end. Two hyphens that are not
the end are an error. -/
def commentEnd? : List Char → Option (List Char × List Char)
  | '-' :: '-' :: '>' :: rest => some ([], rest)
  | '-' :: '-' :: _ => none
  | c :: cs => (commentEnd? cs).map fun (text, rest) => (c :: text, rest)
  | [] => none

def commentBody (text : String) : List Char := ' ' :: partHyphens text.toList ++ [' ']

/-! ## Hyphens together -/

theorem singleton_prefix_iff_head? {c : Char} {cs : List Char} :
    [c] <+: cs ↔ cs.head? = some c := by
  cases cs with
  | nil => simp
  | cons d cs => simp [List.cons_prefix_cons, eq_comm]

theorem two_hyphens_infix_cons {c : Char} {cs : List Char} :
    ['-', '-'] <:+: c :: cs ↔ (c = '-' ∧ cs.head? = some '-') ∨ ['-', '-'] <:+: cs := by
  rw [List.infix_cons_iff, List.cons_prefix_cons, singleton_prefix_iff_head?, eq_comm]

theorem three_hyphens_infix_cons {c : Char} {cs : List Char} :
    ['-', '-', '-'] <:+: c :: cs ↔
      (c = '-' ∧ ['-', '-'] <+: cs) ∨ ['-', '-', '-'] <:+: cs := by
  rw [List.infix_cons_iff, List.cons_prefix_cons, eq_comm]

theorem head?_partHyphens (cs : List Char) : (partHyphens cs).head? = cs.head? := by
  fun_cases partHyphens cs <;> rfl

theorem infix_partHyphens_iff (cs : List Char) :
    ['-', '-'] <:+: partHyphens cs ↔ ['-', '-', '-'] <:+: cs := by
  fun_induction partHyphens cs with
  | case1 cs ih =>
    -- The second hyphen of the pair meets what comes next, which may be a hyphen again.
    have hwritten : ['-', '-'] <:+: '-' :: ' ' :: '-' :: partHyphens cs ↔
        cs.head? = some '-' ∨ ['-', '-', '-'] <:+: cs := by
      simp [two_hyphens_infix_cons, head?_partHyphens, ih]
    have hgiven : ['-', '-', '-'] <:+: '-' :: '-' :: cs ↔
        (cs.head? = some '-' ∨ ['-', '-'] <+: cs) ∨ ['-', '-', '-'] <:+: cs := by
      simp [three_hyphens_infix_cons, List.cons_prefix_cons, singleton_prefix_iff_head?, or_assoc]
    have hhead : ['-', '-'] <+: cs → cs.head? = some '-' := by
      rintro ⟨rest, rfl⟩
      rfl
    rw [hwritten, hgiven, or_iff_left_of_imp hhead]
  | case2 c cs hne ih =>
    have halone : c = '-' → cs.head? ≠ some '-' := by
      intro hc hhead
      obtain ⟨rest, hrest⟩ := List.head?_eq_some_iff.mp hhead
      exact hne rest hc hrest
    have hpair : c = '-' → ¬ ['-', '-'] <+: cs := by
      rintro hc ⟨rest, hrest⟩
      exact hne ('-' :: rest) hc hrest.symm
    rw [two_hyphens_infix_cons, three_hyphens_infix_cons, head?_partHyphens, ih,
      or_iff_right fun h => halone h.1 h.2, or_iff_right fun h => hpair h.1 h.2]
  | case3 => simp

/-! ## Texts of comments -/

theorem isCommentText_cons {c : Char} {cs : List Char} :
    IsCommentText (c :: cs) ↔
      ¬ (c = '-' ∧ (cs ++ ['-']).head? = some '-') ∧ IsCommentText cs := by
  rw [IsCommentText, IsCommentText, two_hyphens_infix_cons]
  cases cs with
  | nil => simp
  | cons d cs => simp [List.getLast?_cons_cons, and_assoc]

theorem commentEnd?_cons {c : Char} {cs : List Char} (h : ¬ (c = '-' ∧ cs.head? = some '-')) :
    commentEnd? (c :: cs) = (commentEnd? cs).map fun (text, rest) => (c :: text, rest) := by
  conv_lhs => unfold commentEnd?
  split <;> simp_all

theorem text_of_commentEnd?_hyphens {cs text rest : List Char}
    (h : commentEnd? ('-' :: '-' :: cs) = some (text, rest)) : text = [] := by
  unfold commentEnd? at h
  split at h
  · cases h
    rfl
  · cases h
  · rename_i hne heq
    simp only [List.cons.injEq] at heq
    exact (hne cs heq.1.symm heq.2.symm).elim
  · cases h

theorem commentEnd?_eq_some_iff {cs rest : List Char} :
    commentEnd? (cs ++ "-->".toList ++ rest) = some (cs, rest) ↔ IsCommentText cs := by
  induction cs with
  | nil => exact iff_of_true rfl ⟨by decide, by decide⟩
  | cons c cs ih =>
    -- The mark begins with a hyphen, so that a last hyphen meets one, too.
    have hhead : (cs ++ "-->".toList ++ rest).head? = (cs ++ ['-']).head? := by
      cases cs <;> rfl
    rw [List.cons_append, List.cons_append, isCommentText_cons, ← hhead]
    by_cases hmeet : c = '-' ∧ (cs ++ "-->".toList ++ rest).head? = some '-'
    · refine iff_of_false ?_ fun h => h.1 hmeet
      obtain ⟨rfl, hnext⟩ := hmeet
      obtain ⟨more, hmore⟩ := List.head?_eq_some_iff.mp hnext
      rw [hmore]
      intro hend
      cases text_of_commentEnd?_hyphens hend
    · rw [commentEnd?_cons hmeet, and_iff_right hmeet, ← ih]
      simp [Option.map_eq_some_iff]

theorem infix_commentBody_iff {text : String} :
    ['-', '-'] <:+: commentBody text ↔ ['-', '-', '-'] <:+: text.toList := by
  have hclose : ¬ ['-', '-'] <:+ partHyphens text.toList ++ [' '] := by
    rintro ⟨front, hfront⟩
    have hlast := congrArg List.getLast? hfront
    simp at hlast
  have hblank : ¬ (' ' = '-' ∧ (partHyphens text.toList ++ [' ']).head? = some '-') :=
    fun h => absurd h.1 (by decide)
  rw [commentBody, List.cons_append, two_hyphens_infix_cons, or_iff_right hblank,
    List.infix_concat_iff, or_iff_right hclose, infix_partHyphens_iff]

theorem getLast?_commentBody (text : String) : (commentBody text).getLast? = some ' ' := by
  rw [commentBody, List.getLast?_concat]

theorem isCommentText_commentBody_iff {text : String} :
    IsCommentText (commentBody text) ↔ ¬ ['-', '-', '-'] <:+: text.toList := by
  rw [IsCommentText, infix_commentBody_iff, getLast?_commentBody]
  exact and_iff_left (by decide)

end Xml

open Xml

namespace Dialplan

/-- The document up to the text of a comment that comes after these lines. -/
def opening (d : Dialplan) (before : List Line) : String :=
  d.head ++ String.join (before.map (·.xml)) ++ "          <!--"

/-- The document from the end of a comment on that these lines come after. -/
def remainder (after : List Line) : String :=
  "\n" ++ String.join (after.map (·.xml)) ++ tail

theorem toList_xml_of_comment {d : Dialplan} {before after : List Line} {text : String}
    (h : d.lines = before ++ .comment text :: after) :
    d.xml.toList = (d.opening before).toList ++ commentBody text ++ "-->".toList ++
      (remainder after).toList := by
  have hline : (Line.comment text).xml.toList =
      "          <!--".toList ++ (commentBody text ++ ("-->".toList ++ "\n".toList)) := by
    rw [Line.xml_comment]
    simp [commentBody]
  have hxml : d.xml = d.head ++ String.join (d.lines.map (·.xml)) ++ tail := rfl
  rw [hxml, h, opening, remainder, List.map_append, List.map_cons, String.join_append,
    String.join_cons]
  simp only [String.toList_append, hline, List.append_assoc]

/-- A comment is written with a blank at its end. Its text has two hyphens together, and so does not
end where it is closed, just if three were together in it. -/
theorem comment_ends_iff (d : Dialplan) (before after : List Line) (text : String)
    (h : d.lines = before ++ .comment text :: after) :
    d.xml.toList = (d.opening before).toList ++ commentBody text ++ "-->".toList ++
      (remainder after).toList ∧
    (commentBody text).getLast? ≠ some '-' ∧
    (['-', '-'] <:+: commentBody text ↔ ['-', '-', '-'] <:+: text.toList) ∧
    (commentEnd? (commentBody text ++ "-->".toList ++ (remainder after).toList) =
        some (commentBody text, (remainder after).toList) ↔
      ¬ ['-', '-', '-'] <:+: text.toList) := by
  refine ⟨toList_xml_of_comment h, ?_, infix_commentBody_iff, ?_⟩
  · rw [getLast?_commentBody]
    decide
  · rw [commentEnd?_eq_some_iff, isCommentText_commentBody_iff]

theorem comments_of_flows_end (f : PbxFlow) (name domain text : String)
    (h : .comment text ∈ (ofFlow f name domain).lines) (rest : List Char) :
    commentEnd? (commentBody text ++ "-->".toList ++ rest) = some (commentBody text, rest) := by
  have hnone : '-' ∉ text.toList := plain_ofFlow f name domain _ h
  rw [commentEnd?_eq_some_iff, isCommentText_commentBody_iff]
  rintro ⟨front, back, htext⟩
  apply hnone
  rw [← htext]
  simp

end Dialplan

def porterDesk : Dialplan where
  context := "default"
  name := "Porter"
  number := "2000"
  uuid := .oidNamespace
  lines := [.application "answer" none, .comment "Porter -- day and night", .application "hangup" none]

theorem porterDesk_comment_ends :
    porterDesk.lines = [.application "answer" none] ++
      .comment "Porter -- day and night" :: [.application "hangup" none] ∧
    commentEnd? (" Porter - - day and night ".toList ++ "-->".toList ++
        (Dialplan.remainder [.application "hangup" none]).toList) =
      some (" Porter - - day and night ".toList,
        (Dialplan.remainder [.application "hangup" none]).toList) := by
  refine ⟨rfl, ?_⟩
  obtain ⟨-, -, -, hends⟩ := porterDesk.comment_ends_iff [.application "answer" none]
    [.application "hangup" none] "Porter -- day and night" rfl
  exact hends.mpr (by decide)

/-- Three hyphens in a comment leave two of them together, and the document is no XML. If the mark of
an end completes them, what comes after it is out of the comment: here an action of its own. -/
theorem hyphens_end_comments :
    let d : Dialplan := { porterDesk with lines := [.comment "---"] }
    let e : Dialplan :=
      { porterDesk with lines := [.comment "---><action application=\"hangup\"/>"] }
    let rest := (Dialplan.remainder []).toList
    (d.xml.toList = (d.opening []).toList ++ " - -- ".toList ++ "-->".toList ++ rest ∧
      ['-', '-'] <:+: " - -- ".toList ∧
      commentEnd? (" - -- ".toList ++ "-->".toList ++ rest) = none) ∧
    e.xml.toList = (e.opening []).toList ++
      " - --><action application=\"hangup\"/> ".toList ++ "-->".toList ++ rest ∧
    commentEnd? (" - --><action application=\"hangup\"/> ".toList ++ "-->".toList ++ rest) =
      some (" - ".toList, "<action application=\"hangup\"/> -->".toList ++ rest) := by
  intro d e rest
  have hthree : commentBody "---" = " - -- ".toList := by decide
  have haction : commentBody "---><action application=\"hangup\"/>" =
      " - --><action application=\"hangup\"/> ".toList := by decide
  refine ⟨⟨?_, by decide, rfl⟩, ?_, rfl⟩
  · rw [← hthree]
    exact Dialplan.toList_xml_of_comment rfl
  · rw [← haction]
    exact Dialplan.toList_xml_of_comment rfl

end Switchboard
