import Switchboard.Proofs.Dialplan.Reading

/-!
# Switchboard.Proofs.Dialplan.Characters

The characters of a dialplan document. Escaping replaces the five characters that are markup and
leaves all others as they are, also those that no XML document may have (`Xml.IsLegal`) and the
white space that an XML parser does not keep (`Xml.IsKept`). So what is in the values is in the
document.

* `Dialplan.legal_xml_iff`: a document has only legal characters if and only if its values do.
* `Line.all_values_ofAction_iff`: of the values in the line of an action only its texts
  (`PbxAction.texts`) may have anything but printable characters.
-/

namespace Switchboard
namespace Xml

/-- The characters that an XML 1.0 document may have. -/
def IsLegal (c : Char) : Prop :=
  (0x20 ≤ c.toNat ∧ c.toNat ≤ 0xD7FF) ∨ c.toNat = 0x9 ∨ c.toNat = 0xA ∨ c.toNat = 0xD ∨
    (0xE000 ≤ c.toNat ∧ c.toNat ≤ 0xFFFD) ∨ (0x10000 ≤ c.toNat ∧ c.toNat ≤ 0x10FFFF)

/-- The characters that a conforming parser does not read as a blank where they are not one. -/
def IsKept (c : Char) : Prop := c ≠ '\t' ∧ c ≠ '\n' ∧ c ≠ '\r'

def IsPrintable (c : Char) : Prop := 0x20 ≤ c.toNat ∧ c.toNat ≤ 0x7E

instance : DecidablePred IsLegal := fun c => by unfold IsLegal; infer_instance

instance : DecidablePred IsKept := fun c => by unfold IsKept; infer_instance

instance : DecidablePred IsPrintable := fun c => by unfold IsPrintable; infer_instance

theorem IsPrintable.isLegal {c : Char} (h : IsPrintable c) : IsLegal c := by
  unfold IsPrintable at h
  unfold IsLegal
  omega

theorem IsPrintable.isKept {c : Char} (h : IsPrintable c) : IsKept c := by
  refine ⟨?_, ?_, ?_⟩ <;> rintro rfl <;> exact absurd h (by decide)

/-! ## Texts of such characters -/

def All (p : Char → Prop) (s : String) : Prop := ∀ c ∈ s.toList, p c

instance {p : Char → Prop} [DecidablePred p] (s : String) : Decidable (All p s) :=
  List.decidableBAll p s.toList

section

variable {p : Char → Prop} {s t : String}

theorem all_append : All p (s ++ t) ↔ All p s ∧ All p t := by
  simp only [All, String.toList_append, List.forall_mem_append]

theorem all_ofList {cs : List Char} : All p (String.ofList cs) ↔ ∀ c ∈ cs, p c := by
  rw [All, String.toList_ofList]

theorem all_join {ss : List String} : All p (String.join ss) ↔ ∀ s ∈ ss, All p s := by
  simp only [All, String.toList_join, List.mem_flatMap]
  constructor
  · intro h s hs c hc
    exact h c ⟨s, hs, hc⟩
  · rintro h c ⟨s, hs, hc⟩
    exact h s hs c hc

variable (hp : ∀ c, IsPrintable c → p c)

include hp

theorem All.of_printable (h : All IsPrintable s) : All p s := fun c hc => hp c (h c hc)

theorem all_repr (n : Nat) : All p n.repr := by
  intro c hc
  rw [Nat.repr_eq_ofList_toDigits, String.toList_ofList] at hc
  have hdigit := Nat.isDigit_of_mem_toDigits (by decide) (by decide) hc
  apply hp
  simp only [Char.isDigit, Bool.and_eq_true, decide_eq_true_eq, ge_iff_le, UInt32.le_iff_toNat_le]
    at hdigit
  exact ⟨le_trans (by decide) hdigit.1, le_trans hdigit.2 (by decide)⟩

/-- Escaping puts printable characters in the place of printable ones. -/
theorem all_escape : All p (escape s) ↔ All p s := by
  have hchar (c : Char) : (∀ x ∈ escapeChar c, p x) ↔ p c := by
    fun_cases escapeChar c
    case case6 => simp
    all_goals
      exact iff_of_true (All.of_printable hp (by decide)) (hp _ (by decide))
  rw [escape, all_ofList, List.forall_mem_flatMap]
  exact forall₂_congr fun c _ => hchar c

theorem all_attr {name value : String} (hname : All p name) :
    All p (attr name value) ↔ All p value := by
  have hopen : All p (" " ++ name ++ "=\"") := by
    rw [all_append, all_append]
    exact ⟨⟨.of_printable hp (by decide), hname⟩, .of_printable hp (by decide)⟩
  have hclose : All p "\"" := .of_printable hp (by decide)
  rw [attr, all_append, all_append, and_iff_right hopen, and_iff_left hclose]

theorem all_partHyphens {cs : List Char} :
    All p (String.ofList (partHyphens cs)) ↔ All p (String.ofList cs) := by
  have hhyphen : p '-' := hp _ (by decide)
  have hblank : p ' ' := hp _ (by decide)
  rw [all_ofList, all_ofList]
  fun_induction partHyphens cs with
  | case1 cs ih => simp [hhyphen, hblank, ih]
  | case2 c cs hne ih => simp only [List.forall_mem_cons, ih]
  | case3 => rfl

/-- Only the digits of a number are its own in the expression that matches it. -/
theorem all_ofNumber {number : String} :
    All p (Pattern.ofNumber number) ↔
      All p (String.ofList (Pattern.normalize number.toList)) := by
  have hbackslash : p '\\' := hp _ (by decide)
  have hescape (cs : List Char) : (∀ c ∈ Pattern.escape cs, p c) ↔ ∀ c ∈ cs, p c := by
    rw [Pattern.escape, List.forall_mem_flatMap]
    refine forall₂_congr fun c _ => ?_
    split <;> simp [hbackslash]
  have hopen : ∀ c ∈ "^\\+?".toList, p c := All.of_printable hp (by decide)
  have hbetween : ∀ c ∈ "$|^".toList, p c := All.of_printable hp (by decide)
  have hclose : ∀ c ∈ ['$'], p c := List.forall_mem_singleton.mpr (hp _ (by decide))
  have hexpression : Pattern.ofNumber number = String.ofList ("^\\+?".toList ++
      Pattern.escape (Pattern.normalize number.toList) ++ "$|^".toList ++
        Pattern.escape (Pattern.normalize number.toList) ++ ['$']) := rfl
  rw [hexpression, all_ofList, all_ofList, List.forall_mem_append, List.forall_mem_append,
    List.forall_mem_append, List.forall_mem_append, hescape, and_iff_right hopen,
    and_iff_left hclose, and_iff_left hbetween, and_self_iff]

end

theorem all_kept_ofNumber (number : String) : All IsKept (Pattern.ofNumber number) := by
  rw [all_ofNumber fun _ => IsPrintable.isKept, all_ofList]
  intro c hc
  have hlayout : Pattern.isLayout c = false := by simpa using List.of_mem_filter hc
  refine ⟨?_, ?_, ?_⟩ <;> rintro rfl <;> exact absurd hlayout (by decide)

theorem all_printable_text (u : Uuid) : All IsPrintable u.text := by
  intro c hc
  obtain rfl | ⟨m, hm, rfl⟩ := Uuid.mem_text hc
  · decide
  · interval_cases m <;> decide

def Piece.fixed : Piece → String
  | .markup text => text
  | .attr name => name

theorem legal_fill_iff {layout : List Piece} (hlayout : ∀ piece ∈ layout, All IsLegal piece.fixed)
    {vs : List String} (h : vs.length = slots layout) :
    All IsLegal (fill layout vs) ↔ ∀ v ∈ vs, All IsLegal v := by
  have hp : ∀ c, IsPrintable c → IsLegal c := fun _ => IsPrintable.isLegal
  induction layout generalizing vs with
  | nil =>
    rw [List.length_eq_zero_iff.mp h]
    exact iff_of_true (by decide) (by simp)
  | cons piece layout ih =>
    obtain ⟨hpiece, hrest⟩ := List.forall_mem_cons.mp hlayout
    cases piece with
    | markup text =>
      have htext : All IsLegal text := hpiece
      rw [fill, all_append, and_iff_right htext]
      exact ih hrest h
    | attr name =>
      obtain ⟨v, vs, rfl⟩ :=
        List.exists_cons_of_length_eq_add_one (h.trans (slots_attr name layout))
      rw [slots_attr, List.length_cons, Nat.add_right_cancel_iff] at h
      have hname : All IsLegal name := hpiece
      rw [fill, all_append, all_attr hp hname, all_escape hp, List.forall_mem_cons]
      exact and_congr_right' (ih hrest h)

end Xml

/-! ## Legal characters -/

open Xml

def Line.values : Line → List String
  | .application name data => name :: data.toList
  | .comment text => [text]

/-- What stands in the document apart from its markup and the unique id. -/
def Dialplan.values (d : Dialplan) : List String :=
  [d.context, d.name, Pattern.ofNumber d.number] ++ d.lines.flatMap (·.values)

theorem Line.legal_xml_iff {l : Line} : All IsLegal l.xml ↔ ∀ v ∈ l.values, All IsLegal v := by
  have hp : ∀ c, IsPrintable c → IsLegal c := fun _ => IsPrintable.isLegal
  have hopen : All IsLegal "          <action" := by decide
  have hclose : All IsLegal "/>\n" := by decide
  cases l with
  | application name data =>
    have hname : All IsLegal (attr "application" name) ↔ All IsLegal name :=
      all_attr hp (by decide)
    cases data with
    | none => simp [xml_bare, all_append, hname, hopen, hclose, values]
    | some data =>
      have hdata : All IsLegal (attr "data" (escape data)) ↔ All IsLegal data :=
        (all_attr hp (by decide)).trans (all_escape hp)
      simp [xml_application, all_append, hname, hdata, hopen, hclose, values]
  | comment text =>
    have hbegin : All IsLegal "          <!-- " := by decide
    have hend : All IsLegal " -->\n" := by decide
    have htext : All IsLegal (String.ofList (partHyphens text.toList)) ↔ All IsLegal text := by
      rw [all_partHyphens hp, String.ofList_toList]
    simp [xml_comment, all_append, htext, hbegin, hend, values]

/-- A document has no characters but legal ones if and only if its values have none. -/
theorem Dialplan.legal_xml_iff (d : Dialplan) :
    All IsLegal d.xml ↔ ∀ v ∈ d.values, All IsLegal v := by
  have hhead : All IsLegal d.head ↔
      ∀ v ∈ [d.context, d.name, d.uuid.text, Pattern.ofNumber d.number], All IsLegal v := by
    rw [head_eq]
    exact legal_fill_iff (by decide +kernel) rfl
  have htail : All IsLegal tail := by decide +kernel
  have huuid : All IsLegal d.uuid.text := (all_printable_text _).of_printable fun _ h => h.isLegal
  rw [xml, all_append, all_append, and_iff_left htail, hhead, all_join, List.forall_mem_map, values,
    List.forall_mem_append, List.forall_mem_flatMap]
  simp only [Line.legal_xml_iff, List.forall_mem_cons, huuid, true_and]

/-! ## The texts of a flow -/

def PbxAction.texts (domain : String) : PbxAction → List String
  | .say text => [text]
  | .play file => [file]
  | .gather _ key _ _ => [key]
  | .connect (some number) => [number, domain]
  | .sendMessage number body => number.toList ++ body.toList
  | .connect none | .hangUp _ | .record .. => []

section

variable {p : Char → Prop} (hp : ∀ c, IsPrintable c → p c)

include hp

/-- All the rest of a line is printable. -/
theorem Line.all_values_ofAction_iff {domain : String} {a : PbxAction} :
    (∀ v ∈ (ofAction domain a).values, All p v) ↔ ∀ t ∈ a.texts domain, All p t := by
  have hfixed {s : String} (h : All IsPrintable s) : All p s := h.of_printable hp
  have hname : All p "speak" ∧ All p "playback" ∧ All p "play_and_get_digits" ∧ All p "bridge" ∧
      All p "hangup" ∧ All p "record" ∧ All p "sms" := by
    refine ⟨?_, ?_, ?_, ?_, ?_, ?_, ?_⟩ <;> exact hfixed (by decide)
  cases a with
  | say text =>
    have hvoice : All p "flite|kal|" := hfixed (by decide)
    simp [ofAction, values, PbxAction.texts, all_append, hname, hvoice]
  | play file => simp [ofAction, values, PbxAction.texts, hname]
  | gather timeout key least most =>
    have hblank : All p " " := hfixed (by decide)
    have htries : All p " 3 " := hfixed (by decide)
    have hprompts : All p " silence_stream://1000 silence_stream://1000 gathered_digits" :=
      hfixed (by decide +kernel)
    simp [ofAction, values, PbxAction.texts, all_append, all_repr hp, hname, hblank, htries,
      hprompts]
  | connect number =>
    have huser : All p "user/" := hfixed (by decide)
    have hat : All p "@" := hfixed (by decide)
    have hcomment : All p "connect without a destination number" := hfixed (by decide)
    cases number <;>
      simp [ofAction, values, PbxAction.texts, all_append, hname, huser, hat, hcomment]
  | hangUp reason => simp [ofAction, values, PbxAction.texts, hname]
  | record length key beep =>
    have hpath : All p recordingPath := hfixed (by decide +kernel)
    have hblank : All p " " := hfixed (by decide)
    have hlimits : All p " 200 5" := hfixed (by decide)
    simp [ofAction, values, PbxAction.texts, all_append, all_repr hp, hname, hpath, hblank, hlimits]
  | sendMessage number body =>
    have hbar : All p "|" := hfixed (by decide)
    cases number <;> cases body <;>
      simp [ofAction, values, PbxAction.texts, all_append, hname, hbar]

end

end Switchboard
