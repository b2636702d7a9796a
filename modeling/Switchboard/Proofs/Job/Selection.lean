import Switchboard.Proofs.Flow.Assembly
import Switchboard.Proofs.Menu.Anchor

/-!
# Switchboard.Proofs.Job.Selection

Which artifact a target gives. A diagram has its menu from the first menu node, or else from the
first gather node that offers entries, or else from nowhere; `Diagram.OriginIs` says so of the list
of the nodes. The automatic target takes the menu if it comes from somewhere, and the dialplan if
it does not.

* `Node.offersEntries_ofBag_iff`: when a node that is read from properties offers entries.
* `Diagram.origin_anchor_eq_iff`: the node that a menu is extracted from.
* `Job.targets_selected`: the four targets side by side.
-/

namespace Switchboard

def Node.IsMenu (n : Node) : Prop := ∃ s, n.step = .menu s

/-- The node asks the caller for a digit and has entries to choose from. -/
def Node.OffersEntries (n : Node) : Prop := ∃ g, n.step = .gather g ∧ g.entries ≠ []

/-- Where the menu of a diagram has to come from. -/
inductive Diagram.OriginIs (d : Diagram) : Origin → Prop where
  | menuNode {before after : List Node} {n : Node} :
      d.nodes = before ++ n :: after → n.IsMenu → (∀ m ∈ before, ¬ m.IsMenu) →
      OriginIs d (.menuNode n.id)
  | gatherNode {before after : List Node} {n : Node} :
      (∀ m ∈ d.nodes, ¬ m.IsMenu) →
      d.nodes = before ++ n :: after → n.OffersEntries → (∀ m ∈ before, ¬ m.OffersEntries) →
      OriginIs d (.gatherNode n.id)
  | none : (∀ m ∈ d.nodes, ¬ m.IsMenu ∧ ¬ m.OffersEntries) → OriginIs d .none

/-! ## Nodes that are read from properties -/

/-- The property `menuOptions` holds at least one entry: as an array, or as text for one. -/
inductive MenuEntry.Listed : Option Json → Prop where
  | array {item : Json} {items : List Json} : Listed (some (.array (item :: items)))
  | text {s : String} {item : Json} {items : List Json} :
      ¬ (∀ c ∈ s.toList, Text.isBlank c = true) →
      Json.parse? s = some (.array (item :: items)) → Listed (some (.string s))

theorem MenuEntry.ofProperty_ne_nil_iff {v : Option Json} : ofProperty v ≠ [] ↔ Listed v := by
  constructor
  · intro h
    fun_cases readAll v with
    | case1 items =>
      cases items with
      | nil => exact absurd rfl h
      | cons item items => exact .array
    | case2 s hblank => simp [ofProperty, readAll, hblank] at h
    | case3 s hblank items hs =>
      cases items with
      | nil => simp [ofProperty, readAll, hblank, hs] at h
      | cons item items => exact .text (by simpa using hblank) hs
    | case4 s hblank v hs hv => simp [ofProperty, readAll, hblank, hv] at h
    | case5 s hblank hs => simp [ofProperty, readAll, hblank, hs] at h
    | case6 v => simp_all [ofProperty, readAll]
  · intro h
    cases h with
    | array => simp [ofProperty, readAll]
    | text hblank hs =>
      have hb : ¬ _ := fun hall => hblank (List.all_eq_true.mp hall)
      simp [ofProperty, readAll, hb, hs]

/-- The tags that name a family. Every tag that names none of the others names `other`. -/
def Family.tags : Family → List String
  | .answer => ["answer-call"]
  | .play => ["play-message", "play-audio-tts"]
  | .gather => ["gather-input"]
  | .forward => ["forward-to-phone"]
  | .hangUp => ["hang-up", "hang-up-call"]
  | .callRecording => ["start-call-recording"]
  | .voicemail => ["voicemail-recording", "record-voice", "record-voicemail"]
  | .sms => ["send-sms", "send-message"]
  | .menu => ["ivr-menu"]
  | .other => []

theorem Family.ofTag_eq_iff {f : Family} (hf : f ≠ .other) {tag : String} :
    ofTag tag = f ↔ tag ∈ f.tags := by
  constructor
  · rintro rfl
    unfold ofTag at hf ⊢
    split at hf <;> simp_all [tags]
  · intro h
    cases f <;> simp only [tags, List.mem_cons, List.not_mem_nil, or_false] at h
    all_goals obtain rfl | rfl | rfl := h
    all_goals rfl

theorem Node.isMenu_ofBag_iff {id tag : String} {bag : Bag} :
    (Node.ofBag id tag bag).IsMenu ↔ tag = "ivr-menu" := by
  have htag : tag = "ivr-menu" ↔ Family.ofTag tag = .menu := by
    rw [Family.ofTag_eq_iff (by decide), Family.tags, List.mem_singleton]
  rw [htag]
  show (∃ s, Step.ofBag (.ofTag tag) bag = .menu s) ↔ _
  cases Family.ofTag tag <;> simp [Step.ofBag]

theorem Node.offersEntries_ofBag_iff {id tag : String} {bag : Bag} :
    (Node.ofBag id tag bag).OffersEntries ↔
      tag = "gather-input" ∧ MenuEntry.Listed (bag.get? "menuOptions") := by
  have htag : tag = "gather-input" ↔ Family.ofTag tag = .gather := by
    rw [Family.ofTag_eq_iff (by decide), Family.tags, List.mem_singleton]
  rw [htag, ← MenuEntry.ofProperty_ne_nil_iff]
  show (∃ g, Step.ofBag (.ofTag tag) bag = .gather g ∧ g.entries ≠ []) ↔ _
  cases Family.ofTag tag <;> simp [Step.ofBag, Gather.ofBag]

/-! ## The origin of a menu -/

namespace Diagram

variable {d : Diagram}

theorem menuNode?_eq_none_iff_isMenu : d.menuNode? = none ↔ ∀ m ∈ d.nodes, ¬ m.IsMenu := by
  simp [menuNode?_eq_none_iff, Node.IsMenu]

theorem gatherNode?_eq_none_iff_offersEntries :
    d.gatherNode? = none ↔ ∀ m ∈ d.nodes, ¬ m.OffersEntries := by
  simp [gatherNode?_eq_none_iff, Node.OffersEntries]

/-- There is one place at most for a menu to come from, and extraction finds it. -/
theorem origin_anchor_eq_iff {origin : Origin} :
    d.anchor.origin = origin ↔ d.OriginIs origin := by
  constructor
  · rintro rfl
    rw [anchor]
    cases hm : d.menuNode? with
    | some found =>
      obtain ⟨id, s⟩ := found
      obtain ⟨before, n, after, hnodes, rfl, hn, hbefore⟩ := menuNode?_eq_some_iff.mp hm
      refine .menuNode hnodes ⟨s, hn⟩ ?_
      rintro m hmem ⟨s', hs'⟩
      exact hbefore m hmem s' hs'
    | none =>
      have hno := menuNode?_eq_none_iff_isMenu.mp hm
      cases hg : d.gatherNode? with
      | some found =>
        obtain ⟨id, g⟩ := found
        obtain ⟨before, n, after, hnodes, rfl, hn, hne, hbefore⟩ := gatherNode?_eq_some_iff.mp hg
        refine .gatherNode hno hnodes ⟨g, hn, hne⟩ ?_
        rintro m hmem ⟨g', hg', hne'⟩
        exact hne' (hbefore m hmem g' hg')
      | none =>
        have hnone := gatherNode?_eq_none_iff_offersEntries.mp hg
        exact .none fun m hmem => ⟨hno m hmem, hnone m hmem⟩
  · intro h
    rw [anchor]
    cases h with
    | @menuNode before after n hnodes hn hbefore =>
      obtain ⟨s, hs⟩ := hn
      have hm : d.menuNode? = some (n.id, s) :=
        menuNode?_eq_some_iff.mpr ⟨before, n, after, hnodes, rfl, hs,
          fun m hmem s' hs' => hbefore m hmem ⟨s', hs'⟩⟩
      rw [hm]
      rfl
    | @gatherNode before after n hno hnodes hn hbefore =>
      obtain ⟨g, hg, hne⟩ := hn
      have hfound : d.gatherNode? = some (n.id, g) := by
        refine gatherNode?_eq_some_iff.mpr ⟨before, n, after, hnodes, rfl, hg, hne, ?_⟩
        intro m hmem g' hg'
        exact Decidable.of_not_not fun hne' => hbefore m hmem ⟨g', hg', hne'⟩
      rw [menuNode?_eq_none_iff_isMenu.mpr hno, hfound]
      rfl
    | none hnone =>
      rw [menuNode?_eq_none_iff_isMenu.mpr fun m hm => (hnone m hm).1,
        gatherNode?_eq_none_iff_offersEntries.mpr fun m hm => (hnone m hm).2]
      rfl

end Diagram

/-! ## The targets -/

namespace Job

variable {j : Job} {r : Option Routing}

theorem origin_extractMenu (j : Job) (extension context : String) :
    (j.extractMenu extension context).origin = j.diagram.anchor.origin := by
  rw [extractMenu_eq]
  cases j.diagram.anchor <;> rfl

theorem isFound_menuFor_iff : (j.menuFor r).isFound = true ↔ (j.menuFor r).origin ≠ .none := by
  simp [Menu.isFound]

theorem compile_of_ne_nil (h : j.diagram.nodes ≠ []) (target : Target) :
    j.compile target r =
      match target with
      | .cloud => j.cloudFlow.map .cloud
      | .dialplan => j.dialplanArtifact r
      | .menu => .ok (j.menuArtifact (j.menuFor r))
      | .auto =>
        if (j.menuFor r).isFound then .ok (j.menuArtifact (j.menuFor r))
        else j.dialplanArtifact r := by
  have hd : j.diagram.isEmpty = false := by simpa [Diagram.isEmpty] using h
  unfold compile
  rw [hd]
  cases target with
  | cloud => cases j.cloudFlow <;> rfl
  | _ => rfl

theorem compile_of_eq_nil (h : j.diagram.nodes = []) (target : Target) :
    j.compile target r = .error .emptyDiagram := by
  unfold compile Diagram.isEmpty
  rw [h]
  rfl

theorem dialplanArtifact_of_startsAt {n : Node} (h : j.diagram.StartsAt n) :
    j.dialplanArtifact r =
      .ok (.dialplan (j.pbxFlowFrom r n.id) (j.dialplanOf (j.pbxFlowFrom r n.id)).xml) := by
  rw [dialplanArtifact, pbxFlow_eq_ok_iff.mpr ⟨n, h, rfl⟩]

theorem compile_cloud_of_startsAt {n : Node} (h : j.diagram.StartsAt n) :
    j.compile .cloud r = .ok (.cloud (j.cloudFlowFrom n.id)) := by
  rw [compile_of_ne_nil (List.ne_nil_of_mem h.mem), cloudFlow_eq_ok_iff.mpr ⟨n, h, rfl⟩]
  rfl

theorem compile_dialplan_of_startsAt {n : Node} (h : j.diagram.StartsAt n) :
    j.compile .dialplan r =
      .ok (.dialplan (j.pbxFlowFrom r n.id) (j.dialplanOf (j.pbxFlowFrom r n.id)).xml) :=
  (compile_of_ne_nil (List.ne_nil_of_mem h.mem) .dialplan).trans (dialplanArtifact_of_startsAt h)

/-- The target for the cloud is the flow and nothing else, also where there is none. -/
theorem compile_cloud_eq (j : Job) (r : Option Routing) :
    j.compile .cloud r = j.cloudFlow.map .cloud := by
  by_cases h : j.diagram.nodes = []
  · rw [compile_of_eq_nil h, cloudFlow_eq_error_iff.mpr ⟨h, rfl⟩]
    rfl
  · exact compile_of_ne_nil h .cloud

theorem compile_dialplan_eq (j : Job) (r : Option Routing) :
    j.compile .dialplan r = j.dialplanArtifact r := by
  by_cases h : j.diagram.nodes = []
  · rw [compile_of_eq_nil h, dialplanArtifact, pbxFlow_eq_error_iff.mpr ⟨h, rfl⟩]
  · exact compile_of_ne_nil h .dialplan

/-- A menu comes from the first menu node, else from the first gather node whose property lists an
entry, else from nowhere. A diagram without nodes compiles for no target. Any other has a menu,
whether it comes from somewhere or not, and a dialplan, made of the flow for the PBX; both are for
one routing, and the automatic target is the menu if it comes from somewhere, else the dialplan. -/
theorem targets_selected (j : Job) (r : Option Routing) :
    (∀ extension context origin,
      (j.extractMenu extension context).origin = origin ↔ j.diagram.OriginIs origin) ∧
    (∀ id tag bag, (Node.ofBag id tag bag).IsMenu ↔ tag = "ivr-menu") ∧
    (∀ id tag bag, (Node.ofBag id tag bag).OffersEntries ↔
      tag = "gather-input" ∧ MenuEntry.Listed (bag.get? "menuOptions")) ∧
    (j.diagram.nodes = [] → ∀ target, j.compile target r = .error .emptyDiagram) ∧
    (j.diagram.nodes ≠ [] → ∃ route menu flow,
      route = r.getD ⟨j.options.defaultExtension, .internal⟩ ∧
      menu = j.extractMenu route.destination route.context.name ∧
      j.pbxFlow r = .ok flow ∧
      flow.extension = route.destination ∧ flow.context = route.context.name ∧
      j.compile .menu r = .ok (.menu menu (menu.rows j.name)) ∧
      j.compile .dialplan r =
        .ok (.dialplan flow (Dialplan.ofFlow flow j.name j.options.pbxDomain).xml) ∧
      (menu.origin ≠ .none → j.compile .auto r = j.compile .menu r) ∧
      (menu.origin = .none → j.compile .auto r = j.compile .dialplan r)) := by
  refine ⟨?_, fun _ _ _ => Node.isMenu_ofBag_iff, fun _ _ _ => Node.offersEntries_ofBag_iff,
    fun h target => compile_of_eq_nil h target, ?_⟩
  · intro extension context origin
    rw [origin_extractMenu, Diagram.origin_anchor_eq_iff]
  · intro hne
    obtain ⟨n, hn⟩ := exists_startsAt hne
    have hflow : j.pbxFlow r = .ok (j.pbxFlowFrom r n.id) := pbxFlow_eq_ok_iff.mpr ⟨n, hn, rfl⟩
    refine ⟨_, j.menuFor r, _, rfl, rfl, hflow, rfl, rfl, compile_of_ne_nil hne .menu,
      compile_dialplan_of_startsAt hn, ?_, ?_⟩
    · intro hfound
      rw [compile_of_ne_nil hne, compile_of_ne_nil hne]
      exact if_pos (isFound_menuFor_iff.mpr hfound)
    · intro hnone
      rw [compile_of_ne_nil hne, compile_of_ne_nil hne]
      refine if_neg fun hfound => ?_
      exact isFound_menuFor_iff.mp hfound hnone

end Job
end Switchboard
