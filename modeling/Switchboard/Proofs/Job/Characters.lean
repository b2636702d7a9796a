import Switchboard.Proofs.Dialplan.LineEnds
import Switchboard.Proofs.Job.Flattening

/-!
# Switchboard.Proofs.Job.Characters

Which texts a dialplan can hold. The document of a compilation has legal characters only if and
only if its texts do, and a conforming parser gets back what was compiled if and only if no text has
white space other than the blank (`Job.dialplan_characters`). The number that calls come in on is
matched without its layout, so white space in it does not matter. Neither condition holds of every
diagram (`dialplans_spoiled_by_characters`).
-/

namespace Switchboard

open Xml

namespace Job

variable (j : Job) (r : Option Routing)

/-- The texts that a dialplan takes over as they are: the name of the flow, and those of its
nodes. -/
def dialplanTexts : List String :=
  j.name :: (Node.firsts j.diagram.nodes).flatMap (·.pbxAction.texts j.options.pbxDomain)

/-- The digits of the number that calls come in on. -/
def dialplanNumber : String :=
  String.ofList (Pattern.normalize (j.options.routing r).destination.toList)

/-- Of what a dialplan holds only these texts, and the digits, may be anything but printable. -/
theorem all_values_dialplanOf_iff {p : Char → Prop} (hp : ∀ c, IsPrintable c → p c)
    (start : String) :
    (∀ v ∈ (j.dialplanOf (j.pbxFlowFrom r start)).values, All p v) ↔
      All p (j.dialplanNumber r) ∧ ∀ t ∈ j.dialplanTexts, All p t := by
  have hcontext : All p (j.options.routing r).context.name := by
    cases (j.options.routing r).context <;> exact All.of_printable hp (by decide)
  have hfixed {l : Line} (h : ∀ v ∈ l.values, All IsPrintable v) : ∀ v ∈ l.values, All p v :=
    fun v hv => (h v hv).of_printable hp
  have hbegin : (∀ v ∈ (Line.application "answer" none).values, All p v) ∧
      ∀ v ∈ (Line.application "sleep" (some "1000")).values, All p v :=
    ⟨hfixed (by decide), hfixed (by decide)⟩
  have hend : ∀ v ∈ (Line.application "hangup" none).values, All p v := hfixed (by decide)
  have hlines : (∀ v ∈ (j.diagram.lines j.options.pbxDomain).flatMap (·.values), All p v) ↔
      ∀ n ∈ Node.firsts j.diagram.nodes, ∀ t ∈ n.pbxAction.texts j.options.pbxDomain, All p t := by
    rw [List.forall_mem_flatMap, Diagram.lines, List.forall_mem_append, List.forall_mem_append,
      List.forall_mem_cons, List.forall_mem_singleton, List.forall_mem_singleton,
      and_iff_right hbegin, and_iff_left hend, List.forall_mem_map]
    exact forall₂_congr fun n _ => Line.all_values_ofAction_iff hp
  rw [dialplanOf_pbxFlowFrom, Dialplan.values, List.forall_mem_append, hlines,
    List.forall_mem_cons, List.forall_mem_cons, List.forall_mem_singleton, and_iff_right hcontext,
    all_ofNumber hp, dialplanTexts, List.forall_mem_cons, List.forall_mem_flatMap, dialplanNumber,
    and_assoc, and_left_comm]

/-- The one comment that a dialplan may have is made of kept characters. -/
theorem all_kept_of_comment {start text : String}
    (h : .comment text ∈ (j.dialplanOf (j.pbxFlowFrom r start)).lines) : All IsKept text := by
  rw [dialplanOf_pbxFlowFrom] at h
  simp only [Diagram.lines, List.mem_append, List.mem_cons, List.mem_map, reduceCtorEq,
    List.not_mem_nil, or_false, false_or] at h
  obtain ⟨n, -, hn⟩ := h
  have hkept : All IsKept "connect without a destination number" := by decide
  unfold Line.ofAction at hn
  split at hn
  case h_6 => exact Line.comment.inj hn ▸ hkept
  all_goals cases hn

/-- Which documents are made of the characters of XML, and which of them say to a conforming parser
what was compiled. -/
theorem dialplan_characters :
    (j.diagram.nodes = [] → j.compile .dialplan r = .error .emptyDiagram) ∧
    (j.diagram.nodes ≠ [] → ∃ flow xml contents,
      j.compile .dialplan r = .ok (.dialplan flow xml) ∧
      Dialplan.Contents.read? xml = some contents ∧
      ((∀ c ∈ xml.toList, IsLegal c) ↔
        All IsLegal (j.dialplanNumber r) ∧ ∀ t ∈ j.dialplanTexts, All IsLegal t) ∧
      (Dialplan.Contents.conforming? xml = some contents ↔
        ∀ t ∈ j.dialplanTexts, All IsKept t)) := by
  refine ⟨fun h => compile_of_eq_nil h .dialplan, fun h => ?_⟩
  obtain ⟨n, hn⟩ := exists_startsAt h
  have hplain : ∀ l ∈ (j.dialplanOf (j.pbxFlowFrom r n.id)).lines, l.Plain :=
    Dialplan.plain_ofFlow _ _ _
  refine ⟨_, _, (j.dialplanOf (j.pbxFlowFrom r n.id)).contents, compile_dialplan_of_startsAt hn,
    Dialplan.read?_xml hplain, ?_, ?_⟩
  · exact (Dialplan.legal_xml_iff _).trans
      (j.all_values_dialplanOf_iff r (fun _ hc => hc.isLegal) n.id)
  · have hnumber : All IsKept (j.dialplanNumber r) :=
      (all_ofNumber fun _ hc => hc.isKept).mp (all_kept_ofNumber _)
    rw [Dialplan.conforming?_xml_eq_iff hplain fun _ => j.all_kept_of_comment r,
      j.all_values_dialplanOf_iff r (fun _ hc => hc.isKept), and_iff_right hnumber]

end Job

def announcement (text : String) : Job where
  diagram := { nodes := [.ofStep "hello" (.play ⟨.speech text, none, "en-US"⟩)], edges := [] }
  name := "Announcement"
  options := .default

theorem announcement_dialplan_characters :
    ∃ flow xml contents,
      (announcement "We're closed.").compile .dialplan none = .ok (.dialplan flow xml) ∧
      Dialplan.Contents.read? xml = some contents ∧ (∀ c ∈ xml.toList, IsLegal c) ∧
      Dialplan.Contents.conforming? xml = some contents := by
  obtain ⟨flow, xml, contents, hcompile, hread, hlegal, hkept⟩ :=
    ((announcement "We're closed.").dialplan_characters none).2 (by decide)
  exact ⟨flow, xml, contents, hcompile, hread, hlegal.mpr (by decide), hkept.mpr (by decide)⟩

/-- A bell in a text makes a document that is not XML. A line break in a text is lost: a conforming
parser reads a blank instead. -/
theorem dialplans_spoiled_by_characters :
    (∃ flow xml, (announcement "Ring\x07").compile .dialplan none = .ok (.dialplan flow xml) ∧
      ¬ ∀ c ∈ xml.toList, IsLegal c) ∧
    ∃ flow xml contents contents',
      (announcement "Line one\nLine two").compile .dialplan none = .ok (.dialplan flow xml) ∧
      Dialplan.Contents.read? xml = some contents ∧
      Dialplan.Contents.conforming? xml = some contents' ∧
      contents.lines = [
        .application "answer" none,
        .application "sleep" (some "1000"),
        .application "speak" (some "flite|kal|Line one\nLine two"),
        .application "hangup" none] ∧
      contents'.lines = [
        .application "answer" none,
        .application "sleep" (some "1000"),
        .application "speak" (some "flite|kal|Line one Line two"),
        .application "hangup" none] := by
  have hcompile (text : String) : (announcement text).compile .dialplan none =
      .ok (.dialplan ((announcement text).pbxFlowFrom none "hello")
        ((announcement text).dialplanOf ((announcement text).pbxFlowFrom none "hello")).xml) := by
    have hstart : (announcement text).diagram.StartsAt
        (.ofStep "hello" (.play ⟨.speech text, none, "en-US"⟩)) :=
      Diagram.start?_eq_some_iff.mp rfl
    exact Job.compile_dialplan_of_startsAt hstart
  have hlines (text : String) :
      ((announcement text).dialplanOf ((announcement text).pbxFlowFrom none "hello")).lines = [
        .application "answer" none,
        .application "sleep" (some "1000"),
        .application "speak" (some ("flite|kal|" ++ text)),
        .application "hangup" none] := by
    rw [Job.dialplanOf_pbxFlowFrom]
    rfl
  have hplain (text : String) := Dialplan.plain_ofFlow
    ((announcement text).pbxFlowFrom none "hello") "Announcement" Options.default.pbxDomain
  refine ⟨⟨_, _, hcompile _, ?_⟩, _, _, _, _, hcompile _, Dialplan.read?_xml (hplain _),
    Dialplan.conforming?_xml (hplain _), hlines _, ?_⟩
  · intro hlegal
    have hvalues := (Dialplan.legal_xml_iff _).mp hlegal
    rw [Job.all_values_dialplanOf_iff _ _ fun _ hc => hc.isLegal] at hvalues
    exact absurd hvalues.2 (by decide)
  · have hmap := congrArg (List.map (Line.map attributeValue unifyLines))
      (hlines "Line one\nLine two")
    exact hmap.trans (by decide)

end Switchboard
