import Switchboard.Dialplan.Xml
import Switchboard.Proofs.Text.Cut
import Switchboard.Proofs.Uuid

/-!
# Switchboard.Proofs.Dialplan.Reader

A reader of dialplan documents that knows their fixed layout and nothing of what was written into
them. It skips the markup around the attributes, takes each value up to the next double quote and
replaces the five entities in it (`Xml.value?`); a comment goes up to the next end of one
(`Xml.comment?`). Lines are read for as long as there is one (`Line.readAll`), and every line that
is read leaves less to read (`Line.length_read?_lt`).
-/

namespace Switchboard

namespace Xml

/-- Replaces the five entities; every other character stands for itself. -/
def unescape : List Char → List Char
  | '&' :: 'a' :: 'm' :: 'p' :: ';' :: cs => '&' :: unescape cs
  | '&' :: 'l' :: 't' :: ';' :: cs => '<' :: unescape cs
  | '&' :: 'g' :: 't' :: ';' :: cs => '>' :: unescape cs
  | '&' :: 'q' :: 'u' :: 'o' :: 't' :: ';' :: cs => '"' :: unescape cs
  | '&' :: 'a' :: 'p' :: 'o' :: 's' :: ';' :: cs => '\'' :: unescape cs
  | c :: cs => c :: unescape cs
  | [] => []

/-- What follows `markup`, if the text begins with it. -/
def skip? (markup : String) (cs : List Char) : Option (List Char) :=
  markup.toList.isPrefixOf? cs

/-- The value up to the next double quote, and what follows the quote. -/
def value? (cs : List Char) : Option (String × List Char) :=
  match cs.dropWhile (· ≠ '"') with
  | [] => none
  | _ :: rest => some (String.ofList (unescape (cs.takeWhile (· ≠ '"'))), rest)

/-- The value of the attribute that comes next, if it has this name. -/
def attr? (name : String) (cs : List Char) : Option (String × List Char) :=
  (skip? (" " ++ name ++ "=\"") cs).bind value?

def comment? : List Char → Option (List Char × List Char)
  | [] => none
  | c :: cs =>
    match skip? " -->\n" (c :: cs) with
    | some rest => some ([], rest)
    | none => (comment? cs).map fun (text, rest) => (c :: text, rest)

/-- A piece of a document: markup that never changes, or an attribute. -/
inductive Piece where
  | markup (text : String)
  | attr (name : String)

/-- The values of the attributes in a text of this layout, and what follows the text. -/
def values? : List Piece → List Char → Option (List String × List Char)
  | [], cs => some ([], cs)
  | .markup text :: layout, cs => (skip? text cs).bind (values? layout)
  | .attr name :: layout, cs =>
    match attr? name cs with
    | none => none
    | some (v, rest) => (values? layout rest).map fun (vs, rest) => (v :: vs, rest)

end Xml

/-! ## Lines -/

open Xml

def Line.read? (cs : List Char) : Option (Line × List Char) :=
  match skip? "          <action" cs with
  | some cs => do
    let (name, cs) ← attr? "application" cs
    match attr? "data" cs with
    | some (data, cs) => do
      let cs ← skip? "/>\n" cs
      some (.application name (some data), cs)
    | none => do
      let cs ← skip? "/>\n" cs
      some (.application name none, cs)
  | none => do
    let cs ← skip? "          <!-- " cs
    let (text, cs) ← comment? cs
    some (.comment (String.ofList text), cs)

namespace Xml

theorem suffix_of_skip? {markup : String} {cs rest : List Char} (h : skip? markup cs = some rest) :
    rest <:+ cs := by
  rw [skip?, List.isPrefixOf?_eq_some_iff_append_eq] at h
  exact ⟨_, h⟩

theorem length_lt_of_skip? {markup : String} {cs rest : List Char} (hne : markup ≠ "")
    (h : skip? markup cs = some rest) : rest.length < cs.length := by
  rw [skip?, List.isPrefixOf?_eq_some_iff_append_eq] at h
  have hpos : 0 < markup.toList.length := List.length_pos_iff.mpr (by simpa using hne)
  rw [← h, List.length_append]
  omega

theorem suffix_of_value? {cs rest : List Char} {v : String} (h : value? cs = some (v, rest)) :
    rest <:+ cs := by
  unfold value? at h
  split at h
  · cases h
  · rename_i c rest' hdrop
    cases h
    exact (List.suffix_cons c rest).trans (hdrop ▸ List.dropWhile_suffix _)

theorem suffix_of_attr? {name v : String} {cs rest : List Char}
    (h : attr? name cs = some (v, rest)) : rest <:+ cs := by
  obtain ⟨mid, hmid, hv⟩ := Option.bind_eq_some_iff.mp h
  exact (suffix_of_value? hv).trans (suffix_of_skip? hmid)

theorem suffix_of_comment? {cs text rest : List Char} (h : comment? cs = some (text, rest)) :
    rest <:+ cs := by
  induction cs generalizing text with
  | nil => cases h
  | cons c cs ih =>
    rw [comment?] at h
    split at h
    · rename_i hskip
      cases h
      exact suffix_of_skip? hskip
    · obtain ⟨⟨text', rest'⟩, hrest, he⟩ := Option.map_eq_some_iff.mp h
      cases he
      exact (ih hrest).trans (List.suffix_cons c cs)

end Xml

theorem Line.length_read?_lt {cs rest : List Char} {l : Line} (h : read? cs = some (l, rest)) :
    rest.length < cs.length := by
  simp only [read?, Option.bind_eq_bind] at h
  split at h
  · rename_i cs₁ hskip
    refine Nat.lt_of_le_of_lt ?_ (length_lt_of_skip? (by decide) hskip)
    obtain ⟨⟨name, cs₂⟩, hname, h⟩ := Option.bind_eq_some_iff.mp h
    refine ((List.IsSuffix.trans ?_ (suffix_of_attr? hname)).length_le)
    dsimp only at h
    split at h
    · rename_i data cs₃ hdata
      obtain ⟨cs₄, hend, h⟩ := Option.bind_eq_some_iff.mp h
      cases h
      exact (suffix_of_skip? hend).trans (suffix_of_attr? hdata)
    · obtain ⟨cs₃, hend, h⟩ := Option.bind_eq_some_iff.mp h
      cases h
      exact suffix_of_skip? hend
  · obtain ⟨cs₁, hskip, h⟩ := Option.bind_eq_some_iff.mp h
    obtain ⟨⟨text, cs₂⟩, htext, h⟩ := Option.bind_eq_some_iff.mp h
    cases h
    exact Nat.lt_of_le_of_lt (suffix_of_comment? htext).length_le
      (length_lt_of_skip? (by decide) hskip)

def Line.readAll (cs : List Char) : List Line × List Char :=
  match _h : read? cs with
  | some (l, rest) => (l :: (readAll rest).1, (readAll rest).2)
  | none => ([], cs)
termination_by cs.length
decreasing_by exact length_read?_lt _h

/-! ## Documents -/

namespace Dialplan

structure Contents where
  context : String
  name : String
  uuid : Uuid
  /-- The expression that dialed numbers are matched against. -/
  pattern : String
  lines : List Line
deriving DecidableEq, Repr

def contents (d : Dialplan) : Contents where
  context := d.context
  name := d.name
  uuid := d.uuid
  pattern := Pattern.ofNumber d.number
  lines := d.lines

open Piece in
def headLayout : List Piece := [
  markup "<?xml version=\"1.0\" encoding=\"UTF-8\" standalone=\"no\"?>\n",
  markup "<document type=\"freeswitch/xml\">\n",
  markup "  <section name=\"dialplan\" description=\"IVR Dialplan\">\n",
  markup "    <context", attr "name", markup ">\n",
  markup "      <extension", attr "name", markup " continue=\"false\"", attr "uuid", markup ">\n",
  markup "        <condition", markup " field=\"destination_number\"", attr "expression",
  markup ">\n"]

def ending : String :=
  "        </condition>\n      </extension>\n    </context>\n  </section>\n</document>"

def Contents.read? (document : String) : Option Contents :=
  match values? headLayout document.toList with
  | some ([context, name, uuid, pattern], cs) =>
    if (Line.readAll cs).2 = ending.toList then
      (Uuid.ofText? uuid).map fun uuid =>
        { context, name, uuid, pattern, lines := (Line.readAll cs).1 }
    else none
  | _ => none

end Dialplan

end Switchboard
