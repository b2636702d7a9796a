import Switchboard.Diagram.Payload
import Switchboard.Proofs.Job.Alike
import Switchboard.Proofs.Job.MenuRows

/-!
# Switchboard.Proofs.Job.EmptyFields

An empty text in a saved diagram stands for a field that is not set, so taking it out should change
nothing. `Payload.Cleared` says that one payload is the other without some of its empty fields:
tags, labels, properties and properties of menu items, in whatever order properties stand.

* `Bag.clearedAt_filter`, `Bag.Cleared.filter`: any set of empty properties may be taken out.
* `Bag.ClearedAt.text?_eq` and so on: every way to read a property;
  `Bag.Cleared.step_alike`: every step.
* `PayloadEdge.effectiveLabel_eq_iff`, `PayloadNode.effectiveTag_eq_iff`: labels and tags, of which
  there may be two. An empty label in the `data` of an edge counts before a label beside it, and an
  empty tag beside the `data` of a node is a tag; where such a field is taken out, the label or the
  tag is another one.
* `Payload.compile_of_cleared`: no other empty field changes what is compiled.
-/

namespace Switchboard

/-! ## Properties -/

/-- The property is the same in both bags, or an empty text in the one and missing in the other. -/
def Bag.ClearedAt (bag bag' : Bag) (name : String) : Prop :=
  bag'.get? name = bag.get? name ∨ (bag.get? name = some (.string "") ∧ bag'.get? name = none)

/-- Any of the properties that are empty texts may be taken out. -/
theorem Bag.clearedAt_filter {bag : Bag} (keep : String × Json → Bool)
    (hnames : (bag.map (·.1)).Nodup) (hkeep : ∀ e ∈ bag, keep e = false → e.2 = .string "")
    (name : String) : bag.ClearedAt (bag.filter keep) name := by
  by_cases hmem : name ∈ (bag.filter keep).map (·.1)
  · -- The property is kept.
    obtain ⟨e, he, rfl⟩ := List.mem_map.mp hmem
    have hnames' : ((bag.filter keep).map (·.1)).Nodup :=
      hnames.sublist (List.filter_sublist.map _)
    left
    rw [get?, get?, (mem_iff_lookup hnames').mp he,
      (mem_iff_lookup hnames).mp (List.mem_filter.mp he).1]
  · have hnone : Bag.get? (bag.filter keep) name = none := lookup_eq_none_of_not_mem hmem
    cases hget : bag.get? name with
    | none => exact .inl (hnone.trans hget.symm)
    | some v =>
      have he : (name, v) ∈ bag := (mem_iff_lookup hnames).mpr hget
      have hdrop : keep (name, v) = false := by
        by_contra hkept
        have hmem' := List.mem_filter.mpr ⟨he, by simpa using hkept⟩
        exact hmem (List.mem_map_of_mem hmem')
      have hv : v = .string "" := hkeep _ he hdrop
      exact .inr ⟨hget.trans (congrArg some hv), hnone⟩

namespace Bag.ClearedAt

variable {bag bag' : Bag} {name : String} (h : bag.ClearedAt bag' name)
include h

theorem text?_eq : bag'.text? name = bag.text? name := by
  obtain h | ⟨h, h'⟩ := h
  · rw [text?, text?, h]
  · rw [text?, text?, h, h']
    rfl

theorem number?_eq : bag'.number? name = bag.number? name := by
  obtain h | ⟨h, h'⟩ := h
  · rw [number?, number?, h]
  · rw [number?, number?, h, h']
    rfl

theorem positive?_eq : bag'.positive? name = bag.positive? name := by
  rw [positive?, positive?, h.number?_eq]

theorem count?_eq : bag'.count? name = bag.count? name := by
  rw [count?, count?, h.number?_eq]

theorem flag?_eq : bag'.flag? name = bag.flag? name := by
  obtain h | ⟨h, h'⟩ := h
  · rw [flag?, flag?, h]
  · rw [flag?, flag?, h, h']
    rfl

end Bag.ClearedAt

theorem MenuEntry.ofBag_of_cleared {bag bag' : Bag} (h : ∀ name, bag.ClearedAt bag' name) :
    ofBag bag' = ofBag bag := by
  simp only [ofBag, (h _).text?_eq, (h _).count?_eq, (h _).flag?_eq]

/-- The one bag is the other without some empty properties, its own and those of the items of its
menu. -/
structure Bag.Cleared (bag bag' : Bag) : Prop where
  property : ∀ name, name ≠ "menuOptions" → bag.ClearedAt bag' name
  items : List.Forall₂
    (fun item item' => ∀ name, (MenuEntry.bagOf item).ClearedAt (MenuEntry.bagOf item') name)
    (MenuEntry.itemsOf (bag.get? "menuOptions")) (MenuEntry.itemsOf (bag'.get? "menuOptions"))

namespace Bag.Cleared

theorem refl (bag : Bag) : bag.Cleared bag where
  property _ _ := .inl rfl
  items := List.forall₂_same.mpr fun _ _ _ => .inl rfl

/-- An empty menu lists nothing, so it may be taken out too. -/
theorem filter {bag : Bag} (keep : String × Json → Bool) (hnames : (bag.map (·.1)).Nodup)
    (hkeep : ∀ e ∈ bag, keep e = false → e.2 = .string "") : bag.Cleared (bag.filter keep) where
  property name _ := clearedAt_filter keep hnames hkeep name
  items := by
    obtain h | ⟨h, h'⟩ := clearedAt_filter keep hnames hkeep "menuOptions"
    · rw [h]
      exact List.forall₂_same.mpr fun _ _ _ => .inl rfl
    · rw [h, h']
      exact .nil

variable {bag bag' : Bag} (h : bag.Cleared bag')
include h

theorem entries_eq : MenuEntry.ofProperty (bag'.get? "menuOptions") =
    MenuEntry.ofProperty (bag.get? "menuOptions") := by
  rw [MenuEntry.ofProperty_eq, MenuEntry.ofProperty_eq, ← List.forall₂_eq_eq_eq,
    List.forall₂_map_left_iff, List.forall₂_map_right_iff]
  refine h.items.flip.imp fun item' item hitem => ?_
  rw [MenuEntry.ofJson_eq, MenuEntry.ofJson_eq, MenuEntry.ofBag_of_cleared hitem]

theorem extension?_eq : bag.extension? = bag'.extension? := by
  obtain h | ⟨h, h'⟩ := h.property "extension" (by decide)
  · rw [extension?, extension?, h]
  · rw [extension?, extension?, h, h']
    rfl

/-- A step of any family is read the same, but for what a node without a meaning of its own
keeps. -/
theorem step_alike (family : Family) : (Step.ofBag family bag).Alike (.ofBag family bag') := by
  have htext {name : String} (hname : name ≠ "menuOptions") : bag'.text? name = bag.text? name :=
    (h.property name hname).text?_eq
  have hpositive {name : String} (hname : name ≠ "menuOptions") :
      bag'.positive? name = bag.positive? name := (h.property name hname).positive?_eq
  have hflag {name : String} (hname : name ≠ "menuOptions") : bag'.flag? name = bag.flag? name :=
    (h.property name hname).flag?_eq
  have hstep (hfamily : family ≠ .other) : Step.ofBag family bag' = Step.ofBag family bag := by
    cases family with
    | other => exact absurd rfl hfamily
    | answer => rfl
    | play => simp (disch := decide) only [Step.ofBag, Prompt.ofBag, Prompt.messageOf, htext]
    | gather =>
      simp (disch := decide) only [Step.ofBag, Gather.ofBag, htext, hpositive, h.entries_eq]
    | forward => simp (disch := decide) only [Step.ofBag, Forward.ofBag, htext, hpositive]
    | hangUp => simp (disch := decide) only [Step.ofBag, htext]
    | callRecording | voicemail =>
      simp (disch := decide) only [Step.ofBag, Recording.ofBag, htext, hpositive, hflag]
    | sms => simp (disch := decide) only [Step.ofBag, Sms.ofBag, htext]
    | menu =>
      simp (disch := decide) only [Step.ofBag, MenuSettings.ofBag, htext, hpositive, hflag,
        h.entries_eq]
  by_cases hfamily : family = .other
  · subst hfamily
    exact .other h.extension?_eq
  · rw [hstep hfamily]
    exact .refl _

end Bag.Cleared

/-! ## Nodes and edges of a payload -/

/-- The text is the same, or it is empty in the one and missing in the other. -/
def TextCleared (t t' : Option String) : Prop := t' = t ∨ (t = some "" ∧ t' = none)

/-- Where an empty text counts as none, nothing changes. -/
theorem TextCleared.filter_eq {t t' : Option String} (h : TextCleared t t') :
    (t'.filter fun s => !s.isEmpty) = t.filter fun s => !s.isEmpty := by
  obtain rfl | ⟨rfl, rfl⟩ := h
  · rfl
  · rfl

/-- The one is the other without some empty fields. -/
structure PayloadData.Cleared (a b : PayloadData) : Prop where
  tag : TextCleared a.tag b.tag
  properties : Option.Rel Bag.Cleared a.properties b.properties

@[inherit_doc PayloadData.Cleared]
structure PayloadNode.Cleared (n n' : PayloadNode) : Prop where
  id_eq : n'.id = n.id
  tag : TextCleared n.tag n'.tag
  data : Option.Rel PayloadData.Cleared n.data n'.data
  properties : Option.Rel Bag.Cleared n.properties n'.properties

@[inherit_doc PayloadData.Cleared]
structure PayloadEdge.Cleared (e e' : PayloadEdge) : Prop where
  id_eq : e'.id = e.id
  source_eq : e'.source = e.source
  target_eq : e'.target = e.target
  label : TextCleared e.label e'.label
  data : Option.Rel TextCleared e.data e'.data

/-- The node has an empty tag, and its `data` has none that would count before it. -/
def PayloadNode.HasEmptyTag (n : PayloadNode) : Prop :=
  n.tag = some "" ∧ ∀ t, n.data.bind (·.tag) = some t → t = ""

/-- The empty label in the edge's `data` counts before one beside it that is not empty. -/
def PayloadEdge.HidesLabel (e : PayloadEdge) : Prop :=
  e.data = some (some "") ∧ ∃ l, e.label = some l ∧ l ≠ ""

theorem PayloadNode.effectiveTag_eq_getD (n : PayloadNode) :
    n.effectiveTag =
      (((n.data.bind (·.tag)).filter fun s => !s.isEmpty).or n.tag).getD "unknown" := by
  rw [effectiveTag]
  cases n.data.bind (·.tag) with
  | none => rfl
  | some t => cases ht : t.isEmpty <;> simp [Option.filter, ht]

namespace PayloadNode.Cleared

variable {n n' : PayloadNode} (h : n.Cleared n')
include h

theorem innerTag : TextCleared (n.data.bind (·.tag)) (n'.data.bind (·.tag)) := by
  have hdata := h.data
  cases hn : n.data <;> cases hn' : n'.data <;> rw [hn, hn'] at hdata
  · exact .inl rfl
  · cases hdata
  · cases hdata
  · cases hdata with
    | some hd => exact hd.tag

/-- The tag stays the same unless the node has an empty one and that is taken out. -/
theorem effectiveTag_eq_iff :
    n'.effectiveTag = n.effectiveTag ↔ (n.HasEmptyTag → n'.tag = n.tag) := by
  rw [effectiveTag_eq_getD, effectiveTag_eq_getD, h.innerTag.filter_eq, HasEmptyTag]
  cases hinner : (n.data.bind (·.tag)).filter fun s => !s.isEmpty with
  | some t =>
    -- The tag in `data` counts.
    obtain ⟨hsome, hne⟩ := Option.filter_eq_some_iff.mp hinner
    have hnot : ¬ ∀ t, n.data.bind (·.tag) = some t → t = "" := fun hall => by
      simp [hall t hsome] at hne
    exact iff_of_true rfl fun hempty => absurd hempty.2 hnot
  | none =>
    have hall : ∀ t, n.data.bind (·.tag) = some t → t = "" := by
      simpa using Option.filter_eq_none_iff.mp hinner
    obtain htag | ⟨htag, htag'⟩ := h.tag
    · exact iff_of_true (by rw [htag]) fun _ => htag
    · rw [htag, htag']
      exact iff_of_false (by decide) fun himp => Option.some_ne_none _ (himp ⟨rfl, hall⟩).symm

theorem innerProperties : Option.Rel Bag.Cleared (n.data.bind (·.properties))
    (n'.data.bind (·.properties)) := by
  have hdata := h.data
  cases hn : n.data <;> cases hn' : n'.data <;> rw [hn, hn'] at hdata
  · exact .none
  · cases hdata
  · cases hdata
  · cases hdata with
    | some hd => exact hd.properties

theorem effectiveBag : n.effectiveBag.Cleared n'.effectiveBag := by
  have hbags := rel_or h.innerProperties h.properties
  rw [PayloadNode.effectiveBag, PayloadNode.effectiveBag]
  generalize (n.data.bind (·.properties)).or n.properties = bag at hbags ⊢
  generalize (n'.data.bind (·.properties)).or n'.properties = bag' at hbags ⊢
  cases hbags with
  | some hbag => exact hbag
  | none => exact .refl []

theorem toNode_alike (htag : n.HasEmptyTag → n'.tag = n.tag) :
    n.toNode.AlikeUnder (fun i => i) n'.toNode where
  id_eq := h.id_eq
  tag_eq := h.effectiveTag_eq_iff.mpr htag
  step_alike := by
    have hstep : n'.toNode.step = .ofBag (.ofTag n.effectiveTag) n'.effectiveBag := by
      rw [← h.effectiveTag_eq_iff.mpr htag]
      rfl
    rw [hstep]
    exact h.effectiveBag.step_alike (.ofTag n.effectiveTag)

end PayloadNode.Cleared

namespace PayloadEdge.Cleared

variable {e e' : PayloadEdge} (h : e.Cleared e')
include h

/-- The label stays the same unless an empty one that hides another is taken out. -/
theorem effectiveLabel_eq_iff :
    e'.effectiveLabel = e.effectiveLabel ↔ (e.HidesLabel → e'.data = e.data) := by
  have hlabel := h.label.filter_eq
  have hdata := h.data
  rw [effectiveLabel, effectiveLabel, HidesLabel]
  cases he : e.data <;> cases he' : e'.data <;> rw [he, he'] at hdata
  · exact iff_of_true hlabel fun _ => rfl
  · cases hdata
  · cases hdata
  · rename_i inner inner'
    obtain rfl | ⟨rfl, rfl⟩ : TextCleared inner inner' := by
      cases hdata
      assumption
    · refine iff_of_true ?_ fun _ => rfl
      cases inner' with
      | none => exact hlabel
      | some l => rfl
    · -- The label beside an empty one comes to light.
      have hshown : (((some none : Option (Option String)).getD none).or e'.label).filter
          (fun l => !l.isEmpty) = e.label.filter fun l => !l.isEmpty := hlabel
      have hhidden : (((some (some "") : Option (Option String)).getD none).or e.label).filter
          (fun l => !l.isEmpty) = none := rfl
      rw [hshown, hhidden, Option.filter_eq_none_iff]
      simp

theorem toEdge_eq (hlabel : e.HidesLabel → e'.data = e.data) (index : Nat) :
    e'.toEdge index = e.toEdge index := by
  rw [toEdge, toEdge, h.id_eq, h.source_eq, h.target_eq, h.effectiveLabel_eq_iff.mpr hlabel]

end PayloadEdge.Cleared

/-! ## Whole payloads -/

/-- The one payload is the other without some empty fields. -/
structure Payload.Cleared (p p' : Payload) : Prop where
  nodes : List.Forall₂ PayloadNode.Cleared p.nodes p'.nodes
  edges : List.Forall₂ PayloadEdge.Cleared p.edges p'.edges

/-- Of the empty fields that are the only ones to count none is taken out. -/
structure Payload.KeepsCounting (p p' : Payload) : Prop where
  tags : List.Forall₂ (fun n n' => n.HasEmptyTag → n'.tag = n.tag) p.nodes p'.nodes
  labels : List.Forall₂ (fun e e' => e.HidesLabel → e'.data = e.data) p.edges p'.edges

/-- What becomes of a payload: the diagram that it stands for is compiled if its ids are unique. -/
def Payload.compile (p : Payload) (name : String) (o : Options) (target : Target)
    (r : Option Routing) : Except DiagramError (Except CompileError Artifact) :=
  p.toDiagram.checkIds.map fun d => Job.compile ⟨d, name, o⟩ target r

namespace Payload

variable {p : Payload} {name : String} {o : Options} {target : Target} {r : Option Routing}

theorem compile_of_repeated {id : String} (h : firstRepeated? [] p.toDiagram.ids = some id) :
    p.compile name o target r = .error (.duplicateId id) := by
  rw [compile, Diagram.checkIds, h]
  rfl

theorem compile_of_unique (h : firstRepeated? [] p.toDiagram.ids = none) :
    p.compile name o target r = .ok (Job.compile ⟨p.toDiagram, name, o⟩ target r) := by
  rw [compile, Diagram.checkIds, h]
  rfl

/-- A payload with unique ids and a start has a cloud flow, of one state for each id. -/
theorem exists_compile_cloud (hids : firstRepeated? [] p.toDiagram.ids = none) {n : Node}
    (hstart : p.toDiagram.StartsAt n) (name : String) (o : Options) (r : Option Routing) :
    ∃ f, p.compile name o .cloud r = .ok (.ok (.cloud f)) ∧
      f.states.Translates p.toDiagram (·.cloudAction o) := by
  refine ⟨Job.cloudFlowFrom ⟨p.toDiagram, name, o⟩ n.id, ?_,
    Job.translates_cloudFlowFrom hstart.id_mem⟩
  rw [compile_of_unique hids, Job.compile_cloud_of_startsAt hstart]

end Payload

namespace Payload.Cleared

variable {p p' : Payload} (h : p.Cleared p')
include h

theorem ids_eq : p'.toDiagram.ids = p.toDiagram.ids := by
  have hids (q : Payload) : q.toDiagram.ids = q.nodes.map (·.id) := List.map_map
  rw [hids, hids, ← List.forall₂_eq_eq_eq, List.forall₂_map_left_iff, List.forall₂_map_right_iff]
  exact h.nodes.flip.imp fun _ _ hn => hn.id_eq

variable (hkeep : p.KeepsCounting p')
include hkeep

theorem edges_eq : p'.toDiagram.edges = p.toDiagram.edges := by
  have hedges : List.Forall₂ (fun e e' : PayloadEdge => ∀ i, e'.toEdge i = e.toEdge i)
      p.edges p'.edges :=
    h.edges.mp (fun _ _ he hlabel => he.toEdge_eq hlabel) hkeep.labels
  have hlength := hedges.length_eq
  apply List.ext_getElem (by simp [toDiagram, hlength])
  intro i hi' hi
  have hi : i < p.edges.length := by simpa [toDiagram] using hi
  have hedge := hedges.get hi (hlength ▸ hi) i
  simpa [toDiagram] using hedge

theorem nodes_alike :
    List.Forall₂ (Node.AlikeUnder fun i => i) p.toDiagram.nodes p'.toDiagram.nodes := by
  rw [toDiagram, toDiagram, List.forall₂_map_left_iff, List.forall₂_map_right_iff]
  exact h.nodes.mp (fun _ _ hn htag => hn.toNode_alike htag) hkeep.tags

theorem alikeAtNodes : p.toDiagram.AlikeAtNodes p'.toDiagram where
  nodes_alike := h.nodes_alike hkeep
  leaving_eq id _ := by
    rw [Diagram.leaving, Diagram.leaving, Diagram.outgoing, Diagram.outgoing, h.edges_eq hkeep]

theorem compile_toDiagram (name : String) (o : Options) (target : Target) (r : Option Routing) :
    Job.compile ⟨p'.toDiagram, name, o⟩ target r = Job.compile ⟨p.toDiagram, name, o⟩ target r := by
  have hedges := h.edges_eq hkeep
  refine (Job.compile_of_alike_of_successors (h.alikeAtNodes hkeep) name o ?_ ?_ target r).symm
  · intro id
    rw [Diagram.isTarget, Diagram.isTarget, hedges]
  · intro id
    rw [Diagram.successors, Diagram.successors, Diagram.outgoing, Diagram.outgoing, hedges]

end Payload.Cleared

/-- Taking empty fields out of a payload changes nothing in what becomes of it, as long as each of
them has another that counts before it or stands for the same as a missing one: the same id is said
to be used twice, or the same artifact is compiled. Where an empty label hides another one, or an
empty tag is all that a node has, only the errors are sure to stay the same. -/
theorem Payload.compile_of_cleared {p p' : Payload} (h : p.Cleared p') (name : String) (o : Options)
    (target : Target) (r : Option Routing) :
    (∀ error, p'.compile name o target r = .error error ↔
      p.compile name o target r = .error error) ∧
    (p.KeepsCounting p' → p'.compile name o target r = p.compile name o target r) := by
  have hids : firstRepeated? [] p'.toDiagram.ids = firstRepeated? [] p.toDiagram.ids := by
    rw [h.ids_eq]
  cases hp : firstRepeated? [] p.toDiagram.ids with
  | some id =>
    rw [compile_of_repeated hp, compile_of_repeated (hids.trans hp)]
    exact ⟨fun _ => .rfl, fun _ => rfl⟩
  | none =>
    rw [compile_of_unique hp, compile_of_unique (hids.trans hp)]
    refine ⟨fun _ => ⟨fun he => ?_, fun he => ?_⟩, fun hkeep => ?_⟩
    · cases he
    · cases he
    · rw [h.compile_toDiagram hkeep]

def reception : Payload where
  nodes := [
    { id := "hello", tag := some "custom", position := none
      data := some {
        tag := some "play-audio-tts"
        properties := some [("messageType", .string "tts"), ("messageText", .string "Hello"),
          ("voice", .string "")] }
      properties := none },
    { id := "ask", tag := some "", position := none
      data := some {
        tag := some "gather-input"
        properties := some [
          ("menuOptions", .array [.object [("key", .string "1"), ("label", .string "")]]),
          ("maxDigits", .string "")] }
      properties := none },
    { id := "desk", tag := some "forward-to-phone", position := none
      data := some { tag := some "", properties := none }
      properties := some [("callerId", .string ""), ("phoneNumber", .string "1001")] }]
  edges := [
    { id := none, source := "hello", target := "ask", label := some "", data := none },
    { id := none, source := "ask", target := "desk", label := some "", data := some (some "1") }]

/-- `reception` without its empty fields. -/
def receptionCleared : Payload where
  nodes := [
    { id := "hello", tag := some "custom", position := none
      data := some {
        tag := some "play-audio-tts"
        properties := some [("messageType", .string "tts"), ("messageText", .string "Hello")] }
      properties := none },
    { id := "ask", tag := none, position := none
      data := some {
        tag := some "gather-input"
        properties := some [("menuOptions", .array [.object [("key", .string "1")]])] }
      properties := none },
    { id := "desk", tag := some "forward-to-phone", position := none
      data := some { tag := none, properties := none }
      properties := some [("phoneNumber", .string "1001")] }]
  edges := [
    { id := none, source := "hello", target := "ask", label := none, data := none },
    { id := none, source := "ask", target := "desk", label := none, data := some (some "1") }]

theorem reception_cleared : reception.Cleared receptionCleared where
  nodes := by
    have hhello : Bag.Cleared
        [("messageType", .string "tts"), ("messageText", .string "Hello"), ("voice", .string "")]
        [("messageType", .string "tts"), ("messageText", .string "Hello")] :=
      .filter (·.1 ≠ "voice") (by decide) (by simp)
    have hask : Bag.Cleared
        [("menuOptions", .array [.object [("key", .string "1"), ("label", .string "")]]),
          ("maxDigits", .string "")]
        [("menuOptions", .array [.object [("key", .string "1")]])] := by
      have hitem : ∀ name, Bag.ClearedAt [("key", .string "1"), ("label", .string "")]
          [("key", .string "1")] name :=
        Bag.clearedAt_filter (·.1 ≠ "label") (by decide) (by simp)
      refine ⟨fun name hname => ?_, .cons hitem .nil⟩
      by_cases hmax : name = "maxDigits"
      · subst hmax
        exact .inr ⟨rfl, rfl⟩
      · left
        simp [Bag.get?, lookup_cons_eq_ite, hname, hmax]
    have hdesk : Bag.Cleared [("callerId", .string ""), ("phoneNumber", .string "1001")]
        [("phoneNumber", .string "1001")] :=
      .filter (·.1 ≠ "callerId") (by decide) (by simp)
    exact .cons ⟨rfl, .inl rfl, .some ⟨.inl rfl, .some hhello⟩, .none⟩
      (.cons ⟨rfl, .inr ⟨rfl, rfl⟩, .some ⟨.inl rfl, .some hask⟩, .none⟩
        (.cons ⟨rfl, .inl rfl, .some ⟨.inr ⟨rfl, rfl⟩, .none⟩, .some hdesk⟩ .nil))
  edges := .cons ⟨rfl, rfl, rfl, .inr ⟨rfl, rfl⟩, .none⟩
    (.cons ⟨rfl, rfl, rfl, .inr ⟨rfl, rfl⟩, .some (.inl rfl)⟩ .nil)

theorem reception_keepsCounting : reception.KeepsCounting receptionCleared where
  tags := by simp [reception, receptionCleared, PayloadNode.HasEmptyTag]
  labels := by simp [reception, receptionCleared, PayloadEdge.HidesLabel]

theorem reception_compile_cleared :
    reception.Cleared receptionCleared ∧ reception.KeepsCounting receptionCleared ∧
    ∀ name o target r, receptionCleared.compile name o target r =
      reception.compile name o target r :=
  ⟨reception_cleared, reception_keepsCounting, fun name o target r =>
    (Payload.compile_of_cleared reception_cleared name o target r).2 reception_keepsCounting⟩

/-- An edge with two labels, of which the one in its `data` is given. -/
def survey (inner : Option String) : Payload where
  nodes := [
    { id := "ask", tag := some "gather-input", position := none, data := none, properties := none },
    { id := "bye", tag := some "hang-up-call", position := none, data := none, properties := none }]
  edges := [
    { id := none, source := "ask", target := "bye", label := some "timeout", data := some inner }]

def blankNode (tag : Option String) : Payload where
  nodes := [{ id := "a", tag := tag, position := none, data := none, properties := none }]
  edges := []

/-- Taking out the empty label of an edge lets the timeout lead somewhere; taking out the empty tag
of a node changes what is said. -/
theorem empty_fields_not_all_unset :
    ((survey (some "")).Cleared (survey none) ∧
      ∃ f f', (survey (some "")).compile "Survey" .default .cloud none = .ok (.ok (.cloud f)) ∧
        (survey none).compile "Survey" .default .cloud none = .ok (.ok (.cloud f')) ∧
        (f.states.get? "ask").map (·.transitions.target? "timeout") = some none ∧
        (f'.states.get? "ask").map (·.transitions.target? "timeout") = some (some "bye")) ∧
    (blankNode (some "")).Cleared (blankNode none) ∧
      ∃ f f', (blankNode (some "")).compile "Blank" .default .cloud none = .ok (.ok (.cloud f)) ∧
        (blankNode none).compile "Blank" .default .cloud none = .ok (.ok (.cloud f')) ∧
        (f.states.get? "a").map (·.action) = some (.say "Executing " (some "alice") none) ∧
        (f'.states.get? "a").map (·.action) =
          some (.say "Executing unknown" (some "alice") none) := by
  have hcleared : (survey (some "")).Cleared (survey none) := {
    nodes := .cons ⟨rfl, .inl rfl, .none, .none⟩ (.cons ⟨rfl, .inl rfl, .none, .none⟩ .nil)
    edges := .cons ⟨rfl, rfl, rfl, .inl rfl, .some (.inr ⟨rfl, rfl⟩)⟩ .nil }
  have hcleared' : (blankNode (some "")).Cleared (blankNode none) := {
    nodes := .cons ⟨rfl, .inr ⟨rfl, rfl⟩, .none, .none⟩ .nil
    edges := .nil }
  constructor
  · obtain ⟨f, hf, hstates⟩ := Payload.exists_compile_cloud (p := survey (some "")) rfl
      (Diagram.start?_eq_some_iff.mp rfl) "Survey" .default none
    obtain ⟨f', hf', hstates'⟩ := Payload.exists_compile_cloud (p := survey none) rfl
      (Diagram.start?_eq_some_iff.mp rfl) "Survey" .default none
    have hask : (survey (some "")).toDiagram.node? "ask" = some _ := rfl
    have hask' : (survey none).toDiagram.node? "ask" = some _ := rfl
    have hbye := hstates'.target?_of_node? hask' "timeout"
    exact ⟨hcleared, f, f', hf, hf', hstates.target?_of_node? hask "timeout",
      hbye.trans (by decide)⟩
  · obtain ⟨f, hf, hstates⟩ := Payload.exists_compile_cloud (p := blankNode (some "")) rfl
      (Diagram.start?_eq_some_iff.mp rfl) "Blank" .default none
    obtain ⟨f', hf', hstates'⟩ := Payload.exists_compile_cloud (p := blankNode none) rfl
      (Diagram.start?_eq_some_iff.mp rfl) "Blank" .default none
    have ha : (blankNode (some "")).toDiagram.node? "a" = some _ := rfl
    have ha' : (blankNode none).toDiagram.node? "a" = some _ := rfl
    refine ⟨hcleared', f, f', hf, hf', ?_, ?_⟩
    · rw [hstates.get?_of_node? ha]
      rfl
    · rw [hstates'.get?_of_node? ha']
      decide

end Switchboard
