import Switchboard.Proofs.Dialplan.Characters

/-!
# Switchboard.Proofs.Dialplan.LineEnds

What a conforming XML parser reads in a dialplan. Before anything else it unifies the ends of lines
(`Xml.lineEnds`), and in the value of an attribute it takes white space for blanks (`Xml.blanks`).

* `Dialplan.unifyLines_xml`: unifying the line ends of a document gives the document of a dialplan
  with other values, because neither markup nor escapes have line ends (`Xml.lineEnds_escape`,
  `Xml.lineEnds_append_of_head?`).
* `Dialplan.conforming?_xml`: what such a parser reads, for any values.
* `Dialplan.conforming?_xml_eq_iff`: it gets back what was written if and only if no value has white
  space other than the blank.
-/

namespace Switchboard

open Xml

namespace Xml

/-! ## Line ends -/

/-- The line ends that a parser sees: a carriage return, with the line feed after it if there is
one, becomes a line feed. -/
def lineEnds : List Char → List Char
  | '\r' :: '\n' :: cs => '\n' :: lineEnds cs
  | '\r' :: cs => '\n' :: lineEnds cs
  | c :: cs => c :: lineEnds cs
  | [] => []

def unifyLines (s : String) : String := String.ofList (lineEnds s.toList)

@[simp] theorem toList_unifyLines (s : String) : (unifyLines s).toList = lineEnds s.toList :=
  String.toList_ofList

/-- White space in a value as a parser reads it. -/
def blanks (s : String) : String :=
  String.ofList (s.toList.map fun c => if IsKept c then c else ' ')

/-- What a conforming parser makes of a value. -/
def attributeValue (v : String) : String := blanks (unifyLines v)

theorem lineEnds_cons {c : Char} (h : c ≠ '\r') (cs : List Char) :
    lineEnds (c :: cs) = c :: lineEnds cs := by
  conv_lhs => unfold lineEnds
  split <;> simp_all

theorem lineEnds_return {cs : List Char} (h : cs.head? ≠ some '\n') :
    lineEnds ('\r' :: cs) = '\n' :: lineEnds cs := by
  rw [lineEnds]
  rintro cs rfl
  exact h rfl

theorem lineEnds_append {front : List Char} (h : '\r' ∉ front) (rest : List Char) :
    lineEnds (front ++ rest) = front ++ lineEnds rest := by
  induction front with
  | nil => rfl
  | cons c front ih =>
    rw [List.mem_cons, not_or] at h
    rw [List.cons_append, lineEnds_cons (Ne.symm h.1), ih h.2, List.cons_append]

theorem lineEnds_of_not_mem {cs : List Char} (h : '\r' ∉ cs) : lineEnds cs = cs := by
  simpa [lineEnds] using lineEnds_append h []

/-- A line end does not reach across the place where two texts meet, unless the second one begins
with a line feed. -/
theorem lineEnds_append_of_head? (cs : List Char) {rest : List Char}
    (h : rest.head? ≠ some '\n') : lineEnds (cs ++ rest) = lineEnds cs ++ lineEnds rest := by
  fun_induction lineEnds cs with
  | case1 cs ih => simp only [List.cons_append, lineEnds, ih]
  | case2 cs hne ih =>
    have hhead : (cs ++ rest).head? ≠ some '\n' := by
      cases cs with
      | nil => exact h
      | cons c cs =>
        intro hc
        cases hc
        exact hne cs rfl
    rw [List.cons_append, lineEnds_return hhead, ih, List.cons_append]
  | case3 c cs hne hne' ih =>
    have hc : c ≠ '\r' := hne'
    rw [List.cons_append, lineEnds_cons hc, ih, List.cons_append]
  | case4 => rfl

/-- Escapes neither have line ends nor take the place of any. -/
theorem mem_escapeChar_iff {c d : Char} (hd : d = '\r' ∨ d = '\n') :
    d ∈ escapeChar c ↔ c = d := by
  fun_cases escapeChar c
  case case6 => simp [eq_comm]
  all_goals obtain rfl | rfl := hd <;> decide

theorem lineEnds_escape (cs : List Char) :
    lineEnds (cs.flatMap escapeChar) = (lineEnds cs).flatMap escapeChar := by
  fun_induction lineEnds cs with
  | case1 cs ih =>
    have hcs : ('\r' :: '\n' :: cs).flatMap escapeChar = '\r' :: '\n' :: cs.flatMap escapeChar :=
      rfl
    rw [hcs, lineEnds, ih]
    rfl
  | case2 cs hne ih =>
    have hcs : ('\r' :: cs).flatMap escapeChar = '\r' :: cs.flatMap escapeChar := rfl
    have hhead : (cs.flatMap escapeChar).head? ≠ some '\n' := by
      cases cs with
      | nil => simp
      | cons c cs =>
        intro h
        have hescape : escapeChar c ≠ [] := by fun_cases escapeChar c <;> simp
        rw [List.flatMap_cons, List.head?_append_of_ne_nil _ hescape] at h
        rw [(mem_escapeChar_iff (.inr rfl)).mp (List.mem_of_head? h)] at hne
        exact hne cs rfl
    rw [hcs, lineEnds_return hhead, ih]
    rfl
  | case3 c cs hne hne' ih =>
    have hc : '\r' ∉ escapeChar c := by
      rw [mem_escapeChar_iff (.inl rfl)]
      exact hne'
    rw [List.flatMap_cons, lineEnds_append hc, ih, List.flatMap_cons]
  | case4 => rfl

theorem unifyLines_of_kept {v : String} (h : All IsKept v) : unifyLines v = v := by
  rw [unifyLines, lineEnds_of_not_mem fun hr => (h _ hr).2.2 rfl, String.ofList_toList]

theorem all_kept_blanks (s : String) : All IsKept (blanks s) := by
  rw [blanks, all_ofList, List.forall_mem_map]
  intro c _
  split
  · assumption
  · decide

theorem attributeValue_eq_iff {v : String} : attributeValue v = v ↔ All IsKept v := by
  constructor
  · intro h
    rw [← h]
    exact all_kept_blanks _
  · intro h
    have hmap : (v.toList.map fun c => if IsKept c then c else ' ') = v.toList :=
      (List.map_congr_left fun c hc => if_pos (h c hc)).trans (List.map_id _)
    rw [attributeValue, unifyLines_of_kept h, blanks, hmap, String.ofList_toList]

theorem escape_unifyLines {v : String} (h : escape v = v) :
    escape (unifyLines v) = unifyLines v := by
  have hv : v.toList.flatMap escapeChar = v.toList := by
    rw [← String.ofList_inj, String.ofList_toList]
    exact h
  rw [escape, unifyLines, String.toList_ofList, ← lineEnds_escape, hv]

theorem lineEnds_attr_append {name : String} (v : String) (hname : '\r' ∉ name.toList)
    (rest : List Char) : lineEnds ((attr name (escape v)).toList ++ rest) =
      (attr name (escape (unifyLines v))).toList ++ lineEnds rest := by
  have hparts (v : String) (rest : List Char) : (attr name (escape v)).toList ++ rest =
      (" " ++ name ++ "=\"").toList ++ (v.toList.flatMap escapeChar ++ '"' :: rest) := by
    simp [attr, escape]
  have hopen : '\r' ∉ (" " ++ name ++ "=\"").toList := by simp [hname]
  rw [hparts, hparts, lineEnds_append hopen, lineEnds_append_of_head? _ (by simp),
    lineEnds_escape, lineEnds_cons (by decide), unifyLines, String.toList_ofList]

theorem lineEnds_fill_append {layout : List Piece}
    (hlayout : ∀ piece ∈ layout, '\r' ∉ piece.fixed.toList) {vs : List String}
    (h : vs.length = slots layout) (rest : List Char) :
    lineEnds ((fill layout vs).toList ++ rest) =
      (fill layout (vs.map unifyLines)).toList ++ lineEnds rest := by
  induction layout generalizing vs with
  | nil =>
    rw [List.length_eq_zero_iff.mp h]
    rfl
  | cons piece layout ih =>
    obtain ⟨hpiece, hrest⟩ := List.forall_mem_cons.mp hlayout
    cases piece with
    | markup text =>
      have htext : '\r' ∉ text.toList := hpiece
      rw [fill, fill, String.toList_append, String.toList_append, List.append_assoc,
        List.append_assoc, lineEnds_append htext, ih hrest h]
    | attr name =>
      obtain ⟨v, vs, rfl⟩ :=
        List.exists_cons_of_length_eq_add_one (h.trans (slots_attr name layout))
      rw [slots_attr, List.length_cons, Nat.add_right_cancel_iff] at h
      have hname : '\r' ∉ name.toList := hpiece
      rw [fill, List.map_cons, fill, String.toList_append, String.toList_append, List.append_assoc,
        List.append_assoc, lineEnds_attr_append v hname, ih hrest h]

theorem mem_lineEnds {cs : List Char} {c : Char} (h : c ∈ lineEnds cs) : c ∈ cs ∨ c = '\n' := by
  fun_induction lineEnds cs with
  | case1 cs ih => simp_all; tauto
  | case2 cs hne ih => simp_all; tauto
  | case3 d cs hne hne' ih => simp_all; tauto
  | case4 => cases h

end Xml

/-! ## Documents -/

/-- The line with other values, and with another text if it is a comment. -/
def Line.map (value comment : String → String) : Line → Line
  | .application name data => .application (value name) (data.map value)
  | .comment text => .comment (comment text)

namespace Line

theorem plain_map_unifyLines {l : Line} (h : l.Plain) : (l.map unifyLines unifyLines).Plain := by
  cases l with
  | application name data => exact escape_unifyLines h
  | comment text =>
    have hmem : '-' ∉ lineEnds text.toList := fun hm => (mem_lineEnds hm).elim h (by decide)
    simpa [map, Plain, unifyLines] using hmem

/-- The line ends in a line are those of its values and its text. -/
theorem lineEnds_xml_append {l : Line} (h : l.Plain) (rest : List Char) :
    lineEnds (l.xml.toList ++ rest) =
      (l.map unifyLines unifyLines).xml.toList ++ lineEnds rest := by
  cases l with
  | application name data =>
    have hopen : '\r' ∉ "          <action".toList := by decide
    have hclose : '\r' ∉ "/>\n".toList := by decide
    have hname : escape name = name := h
    have hattr := lineEnds_attr_append name (by decide : '\r' ∉ "application".toList)
    rw [hname, escape_unifyLines hname] at hattr
    cases data with
    | none =>
      simp only [map, Option.map_none, xml_bare, String.toList_append, List.append_assoc,
        lineEnds_append hopen, hattr, lineEnds_append hclose]
    | some data =>
      have hdata := lineEnds_attr_append data (by decide : '\r' ∉ "data".toList)
      simp only [map, Option.map_some, xml_application, String.toList_append, List.append_assoc,
        lineEnds_append hopen, hattr, hdata, lineEnds_append hclose]
  | comment text =>
    have hopen : '\r' ∉ "          <!-- ".toList := by decide
    have hclose : '\r' ∉ " -->\n".toList := by decide
    have hhead : (" -->\n".toList ++ rest).head? ≠ some '\n' := by simp
    have hxml {t : String} (ht : '-' ∉ t.toList) :
        (comment t).xml = "          <!-- " ++ t ++ " -->\n" := by
      rw [xml_comment, partHyphens_of_not_mem ht, String.ofList_toList]
    have hmapped : '-' ∉ (unifyLines text).toList := plain_map_unifyLines h
    simp only [map, hxml h, hxml hmapped, String.toList_append, List.append_assoc,
      lineEnds_append hopen, lineEnds_append_of_head? _ hhead, lineEnds_append hclose,
      toList_unifyLines]

theorem lineEnds_lines_append {lines : List Line} (h : ∀ l ∈ lines, l.Plain) (rest : List Char) :
    lineEnds (lines.flatMap (·.xml.toList) ++ rest) =
      (lines.map (Line.map unifyLines unifyLines)).flatMap (·.xml.toList) ++ lineEnds rest := by
  induction lines with
  | nil => rfl
  | cons l lines ih =>
    rw [List.forall_mem_cons] at h
    rw [List.flatMap_cons, List.append_assoc, lineEnds_xml_append h.1, ih h.2, List.map_cons,
      List.flatMap_cons, List.append_assoc]

end Line

namespace Dialplan

def withLineEnds (d : Dialplan) : Dialplan where
  context := unifyLines d.context
  name := unifyLines d.name
  number := d.number
  uuid := d.uuid
  lines := d.lines.map (Line.map unifyLines unifyLines)

def Contents.map (value comment : String → String) (c : Contents) : Contents where
  context := value c.context
  name := value c.name
  uuid := c.uuid
  pattern := value c.pattern
  lines := c.lines.map (Line.map value comment)

/-- Reads a document of legal characters as a conforming parser does: line ends are unified before
anything is read, and white space in the value of an attribute is read as blanks. -/
def Contents.conforming? (document : String) : Option Contents :=
  (read? (unifyLines document)).map (Contents.map blanks id)

theorem unifyLines_xml {d : Dialplan} (h : ∀ l ∈ d.lines, l.Plain) :
    unifyLines d.xml = d.withLineEnds.xml := by
  have htext (d : Dialplan) :
      d.xml.toList = d.head.toList ++ (d.lines.flatMap (·.xml.toList) ++ tail.toList) := by
    rw [xml, String.toList_append, String.toList_append, String.toList_join, List.flatMap_map,
      List.append_assoc]
  -- No line end is in the unique id or in the expression.
  have huuid : unifyLines d.uuid.text = d.uuid.text := unifyLines_of_kept
    ((all_printable_text _).of_printable fun _ h => h.isKept)
  have hpattern : unifyLines (Pattern.ofNumber d.number) = Pattern.ofNumber d.number :=
    unifyLines_of_kept (all_kept_ofNumber _)
  have hhead : d.withLineEnds.head = fill headLayout
      ([d.context, d.name, d.uuid.text, Pattern.ofNumber d.number].map unifyLines) := by
    simp only [head_eq, withLineEnds, List.map_cons, List.map_nil, huuid, hpattern]
  have htail : lineEnds tail.toList = tail.toList := lineEnds_of_not_mem (by decide +kernel)
  rw [← String.toList_inj, unifyLines, String.toList_ofList, htext, htext, head_eq,
    lineEnds_fill_append (by decide +kernel) rfl, Line.lineEnds_lines_append h, htail, hhead,
    withLineEnds]

theorem conforming?_xml {d : Dialplan} (h : ∀ l ∈ d.lines, l.Plain) :
    Contents.conforming? d.xml = some (d.contents.map attributeValue unifyLines) := by
  have hplain : ∀ l ∈ d.withLineEnds.lines, l.Plain := by
    intro l hl
    obtain ⟨l, hl', rfl⟩ := List.mem_map.mp hl
    exact Line.plain_map_unifyLines (h l hl')
  have hpattern :
      attributeValue (Pattern.ofNumber d.number) = blanks (Pattern.ofNumber d.number) := by
    rw [attributeValue, unifyLines_of_kept (all_kept_ofNumber _)]
  have hlines : (d.lines.map (Line.map unifyLines unifyLines)).map (Line.map blanks id) =
      d.lines.map (Line.map attributeValue unifyLines) := by
    have hvalue : blanks ∘ unifyLines = attributeValue := rfl
    rw [List.map_map, ← hvalue]
    refine List.map_congr_left fun l _ => ?_
    cases l <;> simp only [Function.comp_apply, Line.map, Option.map_map, id]
  rw [Contents.conforming?, unifyLines_xml h, read?_xml hplain, Option.map_some]
  simp only [contents, Contents.map, withLineEnds, hlines, hpattern]
  rfl

/-- A conforming parser gets back what was written if and only if nothing that was written has white
space other than the blank. -/
theorem conforming?_xml_eq_iff {d : Dialplan} (h : ∀ l ∈ d.lines, l.Plain)
    (hcomment : ∀ text, .comment text ∈ d.lines → All IsKept text) :
    Contents.conforming? d.xml = some d.contents ↔ ∀ v ∈ d.values, All IsKept v := by
  have hline (l : Line) (hl : l ∈ d.lines) :
      l.map attributeValue unifyLines = l ↔ ∀ v ∈ l.values, All IsKept v := by
    cases l with
    | application name data => cases data <;> simp [Line.map, Line.values, attributeValue_eq_iff]
    | comment text =>
      have hkept := hcomment text hl
      simp [Line.map, Line.values, unifyLines_of_kept hkept, hkept]
  have hlines : d.lines.map (Line.map attributeValue unifyLines) = d.lines ↔
      ∀ v ∈ d.lines.flatMap (·.values), All IsKept v := by
    have hid : d.lines.map (Line.map attributeValue unifyLines) = d.lines ↔
        ∀ l ∈ d.lines, l.map attributeValue unifyLines = l := by
      simpa using List.map_inj_left (f := Line.map attributeValue unifyLines) (g := id)
        (l := d.lines)
    rw [hid, List.forall_mem_flatMap]
    exact forall₂_congr hline
  rw [conforming?_xml h, Option.some_inj, Contents.map, contents, Contents.mk.injEq, values,
    List.forall_mem_append, ← hlines]
  simp only [attributeValue_eq_iff, List.forall_mem_cons, List.not_mem_nil, false_implies,
    implies_true, and_true, true_and, and_assoc]

end Dialplan

end Switchboard
