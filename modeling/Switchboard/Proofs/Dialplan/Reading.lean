import Switchboard.Proofs.Dialplan.Reader

/-!
# Switchboard.Proofs.Dialplan.Reading

No text in a flow can change the structure of its dialplan: reading the document gives back all that
was written.

* `unescape_escape`: a value, by induction on its characters.
* `Line.read?_xml`: a line, whatever follows it; `Line.readAll_xml`: lines of any number, by
  induction.
* `Dialplan.read?_xml`: a whole document, if its application names need no escaping and its comments
  have no hyphen. Every dialplan of a flow is of this kind (`Dialplan.plain_ofFlow`).
* `Dialplan.documents_of_flows_read`: the document of a flow says exactly what it was made of.
-/

namespace Switchboard

open Xml

/-! ## Values -/

namespace Xml

theorem unescape_cons {c : Char} (h : c ≠ '&') (cs : List Char) :
    unescape (c :: cs) = c :: unescape cs := by
  conv_lhs => unfold unescape
  split <;> simp_all

theorem unescape_escapeChar (c : Char) (cs : List Char) :
    unescape (escapeChar c ++ cs) = c :: unescape cs := by
  fun_cases escapeChar c
  case case6 hamp _ _ _ _ => exact unescape_cons hamp cs
  all_goals rfl

theorem unescape_escape (cs : List Char) : unescape (cs.flatMap escapeChar) = cs := by
  induction cs with
  | nil => rfl
  | cons c cs ih => rw [List.flatMap_cons, unescape_escapeChar, ih]

theorem quote_not_mem_escape (cs : List Char) : '"' ∉ cs.flatMap escapeChar := by
  rw [List.mem_flatMap]
  rintro ⟨c, -, hc⟩
  revert hc
  fun_cases escapeChar c
  case case6 _ _ _ hquote _ => simpa using Ne.symm hquote
  all_goals decide

@[simp] theorem skip?_append (markup : String) (cs : List Char) :
    skip? markup (markup.toList ++ cs) = some cs :=
  Text.isPrefixOf?_append markup.toList cs

theorem value?_append {cs : List Char} (h : '"' ∉ cs) (rest : List Char) :
    value? (cs ++ '"' :: rest) = some (String.ofList (unescape cs), rest) := by
  rw [value?, Text.dropWhile_ne_append_cons h, Text.takeWhile_ne_append_cons h]

theorem attr?_append (name : String) {cs : List Char} (h : '"' ∉ cs) (rest : List Char) :
    attr? name ((attr name (String.ofList cs)).toList ++ rest) =
      some (String.ofList (unescape cs), rest) := by
  have hparts : (attr name (String.ofList cs)).toList ++ rest =
      (" " ++ name ++ "=\"").toList ++ (cs ++ '"' :: rest) := by
    simp [attr]
  rw [hparts, attr?, skip?_append, Option.bind_some, value?_append h]

theorem attr?_escape (name v : String) (rest : List Char) :
    attr? name ((attr name (escape v)).toList ++ rest) = some (v, rest) := by
  rw [escape, attr?_append name (quote_not_mem_escape _), unescape_escape, String.ofList_toList]

/-- A value that needs no escaping may be written as it is. -/
theorem attr?_of_escape_eq (name : String) {v : String} (h : escape v = v) (rest : List Char) :
    attr? name ((attr name v).toList ++ rest) = some (v, rest) := by
  have hread := attr?_escape name v rest
  rwa [h] at hread

/-! ## Comments -/

theorem partHyphens_of_not_mem {cs : List Char} (h : '-' ∉ cs) : partHyphens cs = cs := by
  fun_induction partHyphens cs with
  | case1 cs ih => simp at h
  | case2 c cs hne ih => rw [ih (fun hm => h (List.mem_cons_of_mem c hm))]
  | case3 => rfl

/-- Inside a text without hyphens no end of a comment begins. -/
theorem skip?_commentEnd_of_not_mem {c : Char} {cs : List Char} (h : '-' ∉ cs) (rest : List Char) :
    skip? " -->\n" (c :: (cs ++ " -->\n".toList ++ rest)) = none := by
  have hend : " -->\n".toList = [' ', '-', '-', '>', '\n'] := rfl
  rw [skip?, hend]
  cases cs with
  | nil => simp [List.isPrefixOf?]
  | cons d cs =>
    rw [List.mem_cons, not_or] at h
    simp [List.isPrefixOf?, h.1]

theorem comment?_append {cs : List Char} (h : '-' ∉ cs) (rest : List Char) :
    comment? (cs ++ " -->\n".toList ++ rest) = some (cs, rest) := by
  induction cs with
  | nil =>
    rw [List.nil_append]
    have hskip := skip?_append " -->\n" rest
    simp only [String.reduceToList, List.cons_append] at hskip ⊢
    rw [comment?, hskip]
  | cons c cs ih =>
    rw [List.mem_cons, not_or] at h
    rw [List.cons_append, List.cons_append, comment?, skip?_commentEnd_of_not_mem h.2, ih h.2]
    rfl

end Xml

/-! ## Lines -/

/-- A line that is written as it is: an application whose name needs no escaping, or a comment
without hyphens. -/
def Line.Plain : Line → Prop
  | .application name _ => escape name = name
  | .comment text => '-' ∉ text.toList

namespace Line

theorem xml_bare (name : String) :
    (application name none).xml = "          <action" ++ attr "application" name ++ "/>\n" := rfl

theorem xml_application (name data : String) :
    (application name (some data)).xml =
      "          <action" ++ attr "application" name ++ attr "data" (escape data) ++ "/>\n" := rfl

theorem xml_comment (text : String) :
    (comment text).xml =
      "          <!-- " ++ String.ofList (partHyphens text.toList) ++ " -->\n" := rfl

theorem read?_xml {l : Line} (h : l.Plain) (rest : List Char) :
    read? (l.xml.toList ++ rest) = some (l, rest) := by
  cases l with
  | application name data =>
    cases data with
    | none =>
      have hdata : attr? "data" ("/>\n".toList ++ rest) = none := by
        simp [attr?, skip?, List.isPrefixOf?]
      simp only [read?, xml_bare, String.toList_append, List.append_assoc, skip?_append,
        attr?_of_escape_eq _ h, hdata, Option.bind_eq_bind, Option.bind_some]
    | some data =>
      simp only [read?, xml_application, String.toList_append, List.append_assoc, skip?_append,
        attr?_of_escape_eq _ h, attr?_escape, Option.bind_eq_bind, Option.bind_some]
  | comment text =>
    -- Without hyphens nothing in the text is parted, and nothing in it ends the comment.
    have hno : skip? "          <action" ("          <!-- ".toList ++
        (text.toList ++ (" -->\n".toList ++ rest))) = none := by
      simp [skip?, List.isPrefixOf?]
    have htext := comment?_append h rest
    rw [List.append_assoc] at htext
    simp only [read?, xml_comment, String.toList_append, List.append_assoc,
      partHyphens_of_not_mem h, hno, skip?_append, htext, Option.bind_eq_bind, Option.bind_some,
      String.ofList_toList]

theorem readAll_of_some {cs rest : List Char} {l : Line} (h : read? cs = some (l, rest)) :
    readAll cs = (l :: (readAll rest).1, (readAll rest).2) := by
  rw [readAll]
  split
  · rename_i hread
    rw [h] at hread
    cases hread
    rfl
  · rename_i hread
    rw [h] at hread
    cases hread

theorem readAll_of_none {cs : List Char} (h : read? cs = none) : readAll cs = ([], cs) := by
  rw [readAll]
  split
  · rename_i hread
    rw [h] at hread
    cases hread
  · rfl

theorem readAll_xml {lines : List Line} (h : ∀ l ∈ lines, l.Plain) {rest : List Char}
    (hrest : read? rest = none) :
    readAll (lines.flatMap (·.xml.toList) ++ rest) = (lines, rest) := by
  induction lines with
  | nil => exact readAll_of_none hrest
  | cons l lines ih =>
    rw [List.forall_mem_cons] at h
    rw [List.flatMap_cons, List.append_assoc, readAll_of_some (read?_xml h.1 _), ih h.2]

end Line

/-! ## Layouts -/

namespace Xml

def fill : List Piece → List String → String
  | .markup text :: layout, vs => text ++ fill layout vs
  | .attr name :: layout, v :: vs => attr name (escape v) ++ fill layout vs
  | _, _ => ""

def slots (layout : List Piece) : Nat :=
  layout.countP fun
    | .markup _ => false
    | .attr _ => true

theorem slots_attr (name : String) (layout : List Piece) :
    slots (.attr name :: layout) = slots layout + 1 :=
  List.countP_cons_of_pos rfl

theorem values?_fill (layout : List Piece) {vs : List String} (h : vs.length = slots layout)
    (rest : List Char) : values? layout ((fill layout vs).toList ++ rest) = some (vs, rest) := by
  induction layout generalizing vs with
  | nil =>
    rw [List.length_eq_zero_iff.mp h]
    rfl
  | cons piece layout ih =>
    cases piece with
    | markup text =>
      rw [fill, String.toList_append, List.append_assoc, values?, skip?_append, Option.bind_some]
      exact ih h
    | attr name =>
      obtain ⟨v, vs, rfl⟩ :=
        List.exists_cons_of_length_eq_add_one (h.trans (slots_attr name layout))
      rw [slots_attr, List.length_cons, Nat.add_right_cancel_iff] at h
      rw [fill, String.toList_append, List.append_assoc, values?, attr?_escape]
      simp only [ih h, Option.map_some]

theorem escape_of_plain {s : String} (h : ∀ c ∈ s.toList, escapeChar c = [c]) : escape s = s := by
  have hcs : ∀ cs : List Char, (∀ c ∈ cs, escapeChar c = [c]) → cs.flatMap escapeChar = cs := by
    intro cs hcs
    induction cs with
    | nil => rfl
    | cons c cs ih =>
      rw [List.forall_mem_cons] at hcs
      rw [List.flatMap_cons, hcs.1, ih hcs.2, List.singleton_append]
  rw [escape, hcs _ h, String.ofList_toList]

end Xml

/-! ## Documents -/

namespace Dialplan

theorem escape_text (u : Uuid) : escape u.text = u.text := by
  apply escape_of_plain
  intro c hc
  obtain rfl | ⟨m, hm, rfl⟩ := Uuid.mem_text hc
  · rfl
  · interval_cases m <;> rfl

theorem head_eq (d : Dialplan) :
    d.head = fill headLayout [d.context, d.name, d.uuid.text, Pattern.ofNumber d.number] := by
  have hcontinue : attr "continue" "false" = " continue=\"false\"" := by decide
  have hfield : attr "field" "destination_number" = " field=\"destination_number\"" := by decide
  have hhead : d.head =
      "<?xml version=\"1.0\" encoding=\"UTF-8\" standalone=\"no\"?>\n" ++
      "<document type=\"freeswitch/xml\">\n" ++
      "  <section name=\"dialplan\" description=\"IVR Dialplan\">\n" ++
      "    <context" ++ attr "name" (escape d.context) ++ ">\n" ++
      "      <extension" ++ attr "name" (escape d.name) ++ attr "continue" "false" ++
        attr "uuid" d.uuid.text ++ ">\n" ++
      "        <condition" ++ attr "field" "destination_number" ++
        attr "expression" (escape (Pattern.ofNumber d.number)) ++ ">\n" := rfl
  rw [hhead]
  simp only [headLayout, fill, escape_text, hcontinue, hfield, String.append_assoc,
    String.append_empty]

theorem read?_xml {d : Dialplan} (h : ∀ l ∈ d.lines, l.Plain) :
    Contents.read? d.xml = some d.contents := by
  have hend : Line.read? ending.toList = none := by decide
  have hlines := Line.readAll_xml h hend
  have hxml : d.xml = d.head ++ String.join (d.lines.map (·.xml)) ++ ending := rfl
  rw [Contents.read?, hxml, head_eq, String.toList_append, String.toList_append,
    String.toList_join, List.flatMap_map, List.append_assoc, values?_fill headLayout rfl]
  simp only [hlines, if_true, Uuid.ofText?_text]
  rfl

/-! ## Dialplans of flows -/

/-- Only letters and underscores are in the names of the applications that a flow runs, and the one
comment that it may leave has no hyphen. -/
theorem plain_ofAction (domain : String) (a : PbxAction) : (Line.ofAction domain a).Plain := by
  cases a with
  | say text => exact (by decide : escape "speak" = "speak")
  | play file => exact (by decide : escape "playback" = "playback")
  | gather timeout key least most =>
    exact (by decide : escape "play_and_get_digits" = "play_and_get_digits")
  | connect number =>
    cases number with
    | some number => exact (by decide : escape "bridge" = "bridge")
    | none => exact (by decide : '-' ∉ "connect without a destination number".toList)
  | hangUp reason => exact (by decide : escape "hangup" = "hangup")
  | record length key beep => exact (by decide : escape "record" = "record")
  | sendMessage number body => exact (by decide : escape "sms" = "sms")

theorem plain_ofFlow (f : PbxFlow) (name domain : String) :
    ∀ l ∈ (ofFlow f name domain).lines, l.Plain := by
  intro l hl
  simp only [ofFlow, List.mem_append, List.mem_cons, List.mem_map, List.not_mem_nil,
    or_false] at hl
  obtain ((rfl | rfl) | ⟨s, -, rfl⟩) | rfl := hl
  · exact (by decide : escape "answer" = "answer")
  · exact (by decide : escape "sleep" = "sleep")
  · exact plain_ofAction domain s.action
  · exact (by decide : escape "hangup" = "hangup")

/-- The document says no less than the dialplan does, and no more. -/
theorem xml_eq_of_contents_eq {d d' : Dialplan} (h : d.contents = d'.contents) :
    d.xml = d'.xml := by
  simp only [contents, Contents.mk.injEq] at h
  obtain ⟨hcontext, hname, huuid, hpattern, hlines⟩ := h
  have hhead : d.head = d'.head := by
    rw [head_eq, head_eq, hcontext, hname, huuid, hpattern]
  have hxml : ∀ d : Dialplan, d.xml = d.head ++ String.join (d.lines.map (·.xml)) ++ tail :=
    fun _ => rfl
  rw [hxml, hxml, hhead, hlines]

end Dialplan

/-- Whatever texts a flow holds, its document is read as what it was made of: context, name, unique
id, expression and all lines in order, each with its data word for word. So two documents are equal
only if they were made of the same. -/
theorem Dialplan.documents_of_flows_read :
    (∀ f name domain,
      Contents.read? (ofFlow f name domain).xml = some {
        context := f.context
        name := name
        uuid := .ofName .oidNamespace (uuidName f.context name f.extension)
        pattern := Pattern.ofNumber f.extension
        lines := [.application "answer" none, .application "sleep" (some "1000")] ++
          f.states.values.map (fun s => .ofAction domain s.action) ++
          [.application "hangup" none] }) ∧
    ∀ f name domain f' name' domain',
      (ofFlow f name domain).xml = (ofFlow f' name' domain').xml ↔
        (ofFlow f name domain).contents = (ofFlow f' name' domain').contents := by
  have hread : ∀ f name domain, Contents.read? (ofFlow f name domain).xml =
      some (ofFlow f name domain).contents :=
    fun f name domain => read?_xml (plain_ofFlow f name domain)
  refine ⟨hread, ?_⟩
  intro f name domain f' name' domain'
  constructor
  · intro h
    have hsame := hread f' name' domain'
    rw [← h, hread f name domain] at hsame
    exact Option.some.inj hsame
  · exact xml_eq_of_contents_eq

end Switchboard
