import Switchboard.Proofs.Diagram.Turns
import Switchboard.Proofs.Diagram.Untagged
import Switchboard.Proofs.Job.StaleEdges

/-!
# Switchboard.Proofs.Job.Retagging

Tags that name one family stand for each other. A node is read the same way under each of them, and
its action does not show which one it was: only a step without an action of its own says its tag,
and no family of such steps has two tags. What is left is the greeting of a play node, which hangs
on the tag (`Job.compile_retagged`).
-/

namespace Switchboard

theorem Family.ofTag_of_mem_tags {f : Family} {tag : String} (h : tag ∈ f.tags) :
    ofTag tag = f := by
  by_cases hf : f = .other
  · subst hf
    cases h
  · exact (ofTag_eq_iff hf).mpr h

/-- The very node, or one that was read from the same properties under another tag of its family,
where the family is one of `fs`. -/
inductive Node.RetaggedIn (fs : List Family) : Node → Node → Prop where
  | same (n : Node) : RetaggedIn fs n n
  | retag {f : Family} {id tag tag' : String} {bag : Bag} {position : Option Position} :
      f ∈ fs → tag ∈ f.tags → tag' ∈ f.tags →
      RetaggedIn fs { Node.ofBag id tag bag with position := position }
        { Node.ofBag id tag' bag with position := position }

/-- Some nodes have another tag of their family, if it is one of `fs`. -/
structure Diagram.RetaggedIn (fs : List Family) (d d' : Diagram) : Prop where
  nodes_retagged : List.Forall₂ (Node.RetaggedIn fs) d.nodes d'.nodes
  edges_eq : d'.edges = d.edges

/-! ## Nodes -/

namespace Node.RetaggedIn

variable {fs : List Family} {n n' : Node} (h : n.RetaggedIn fs n')
include h

theorem eq_or_family : n = n' ∨
    ∃ f ∈ fs, n.step.family = f ∧ f ≠ .menu ∧ f ≠ .other ∧ n' = { n with tag := n'.tag } := by
  cases h with
  | same => exact .inl rfl
  | @retag f id tag tag' bag position hf htag htag' =>
    have hstep : Family.ofTag tag = f := Family.ofTag_of_mem_tags htag
    have hstep' : Family.ofTag tag' = f := Family.ofTag_of_mem_tags htag'
    -- `ivr-menu` is the only tag of its family.
    by_cases hmenu : f = .menu
    · subst hmenu
      rw [Family.tags, List.mem_singleton] at htag htag'
      exact .inl (by rw [htag, htag'])
    · refine .inr ⟨f, hf, ?_, hmenu, ?_, ?_⟩
      · rw [← hstep]
        exact Step.family_ofBag _ bag
      · rintro rfl
        cases htag
      · simp only [ofBag, hstep, hstep']

theorem untagged_eq : n.untagged = n'.untagged := by
  obtain rfl | ⟨_, _, _, _, _, heq⟩ := h.eq_or_family
  · rfl
  · rw [heq]
    rfl

theorem id_eq : n.id = n'.id := by
  rw [← id_untagged, h.untagged_eq, id_untagged]

theorem cloudAction_eq (o : Options) : n.cloudAction o = n'.cloudAction o := by
  obtain rfl | ⟨f, _, rfl, hmenu, hother, heq⟩ := h.eq_or_family
  · rfl
  · rw [heq]
    exact Step.cloudAction_tag_eq hmenu hother n.tag n'.tag o

theorem pbxAction_eq : n.pbxAction = n'.pbxAction := by
  obtain rfl | ⟨f, _, rfl, hmenu, hother, heq⟩ := h.eq_or_family
  · rfl
  · rw [heq]
    exact Step.pbxAction_tag_eq hmenu hother n.tag n'.tag

theorem greeting?_eq (hplay : .play ∉ fs) : n.greeting? = n'.greeting? := by
  obtain rfl | ⟨f, hf, rfl, -, -, heq⟩ := h.eq_or_family
  · rfl
  · have hfamily : n.step.family ≠ .play := fun he => hplay (he ▸ hf)
    rw [heq]
    exact (greeting?_tag_eq hfamily n'.tag).symm

end Node.RetaggedIn

/-! ## Diagrams -/

namespace Diagram.RetaggedIn

variable {fs : List Family} {d d' : Diagram} (h : d.RetaggedIn fs d')
include h

theorem untagged_eq : d.untagged = d'.untagged := by
  have hnodes : d.nodes.map Node.untagged = d'.nodes.map Node.untagged := by
    rw [← List.forall₂_eq_eq_eq, List.forall₂_map_left_iff, List.forall₂_map_right_iff]
    exact h.nodes_retagged.imp fun _ _ hn => hn.untagged_eq
  rw [untagged, untagged, hnodes, h.edges_eq]

theorem ids_eq : d.ids = d'.ids := by
  rw [← ids_untagged, h.untagged_eq, ids_untagged]

theorem nodes_eq_nil_iff : d.nodes = [] ↔ d'.nodes = [] := by
  rw [← List.length_eq_zero_iff, h.nodes_retagged.length_eq, List.length_eq_zero_iff]

theorem path_eq (source goal : String) :
    d.index.path source goal = d'.index.path source goal := by
  rw [← path_untagged, h.untagged_eq, path_untagged]

theorem anchor_eq : d.anchor = d'.anchor := by
  rw [← anchor_untagged, h.untagged_eq, anchor_untagged]

theorem gatherOption_eq (e : MenuEntry) (o : Options) (id extension : String) (position : Nat) :
    e.gatherOption d.index o id extension position =
      e.gatherOption d'.index o id extension position := by
  rw [← gatherOption_untagged, h.untagged_eq, gatherOption_untagged]

theorem start?_cases : (d.start? = none ∧ d'.start? = none) ∨
    ∃ n n', d.start? = some n ∧ d'.start? = some n' ∧ n'.id = n.id := by
  have hstart : d.start?.map Node.untagged = d'.start?.map Node.untagged := by
    rw [← start?_untagged, h.untagged_eq, start?_untagged]
  cases hs : d.start? with
  | none =>
    rw [hs] at hstart
    exact .inl ⟨rfl, Option.map_eq_none_iff.mp hstart.symm⟩
  | some n =>
    rw [hs] at hstart
    obtain ⟨n', hs', heq⟩ := Option.map_eq_some_iff.mp hstart.symm
    have hid : n'.untagged.id = n.untagged.id := by rw [heq]
    exact .inr ⟨n, n', rfl, hs', hid⟩

theorem map_node?_eq {α : Type} {f f' : Node → α}
    (hf : ∀ n n', n.RetaggedIn fs n' → f n = f' n') (id : String) :
    (d.node? id).map f = (d'.node? id).map f' :=
  map_eq_of_rel (node?_of_forall₂ h.nodes_retagged (fun _ _ hn => hn.id_eq) id) hf

theorem states_eq {α : Type} {action : Node → α}
    (haction : ∀ n n', n.RetaggedIn fs n' → action n = action n') (ids : List String) :
    d.index.states action ids = d'.index.states action ids := by
  have hstate : ∀ n n', n.RetaggedIn fs n' →
      (n.id, d.index.state action n) = (n'.id, d'.index.state action n') := by
    intro n n' hn
    have ht : d.index.transitions n = d'.index.transitions n' := by
      rw [← transitions_untagged, h.untagged_eq, hn.untagged_eq, transitions_untagged]
    rw [Index.state, Index.state, hn.id_eq, ht, haction n n' hn]
  rw [Index.states, Index.states]
  simp only [Index.nodesOf, List.map_filterMap, node?_index]
  congr 1
  exact List.filterMap_congr fun id _ => h.map_node?_eq hstate id

theorem greetings_eq (hplay : .play ∉ fs) (goal : String) :
    d.index.greetings goal = d'.index.greetings goal := by
  have hgreet : ∀ id, (d.node? id).bind Node.greeting? = (d'.node? id).bind Node.greeting? := by
    intro id
    have hjoin (x : Option Node) : x.bind Node.greeting? = (x.map Node.greeting?).join := by
      cases x <;> rfl
    rw [hjoin, hjoin, h.map_node?_eq fun _ _ hn => hn.greeting?_eq hplay]
  have hfirst : ∀ path : List String, (path.filterMap d.index.node?).findSome? Node.greeting? =
      (path.filterMap d'.index.node?).findSome? Node.greeting? := by
    intro path
    simp only [← List.head?_filterMap, List.filterMap_filterMap, node?_index, hgreet]
  obtain ⟨hs, hs'⟩ | ⟨n, n', hs, hs', hid⟩ := h.start?_cases
  · simp only [Index.greetings, start?_index, hs, hs', hfirst]
  · simp only [Index.greetings, start?_index, hs, hs', hid, h.path_eq, hfirst]

end Diagram.RetaggedIn

/-! ## Compilations -/

/-- The rows of menus that differ in their greetings at most. -/
structure MenuRows.SameButGreetings (rows rows' : MenuRows) : Prop where
  menu_eq : rows'.menu =
    { rows.menu with greetLong := rows'.menu.greetLong, greetShort := rows'.menu.greetShort }
  options_eq : rows'.options = rows.options

theorem Menu.SameButGreetings.rows {m m' : Menu} (h : m.SameButGreetings m') (name : String) :
    (m.rows name).SameButGreetings (m'.rows name) := by
  rw [h.rest_eq]
  exact ⟨rfl, rfl⟩

namespace Job

variable {fs : List Family} {d d' : Diagram} (h : d.RetaggedIn fs d') (name : String) (o : Options)
include h

theorem cloudFlow_of_retagged : cloudFlow ⟨d', name, o⟩ = cloudFlow ⟨d, name, o⟩ := by
  have hfrom : cloudFlowFrom ⟨d', name, o⟩ = cloudFlowFrom ⟨d, name, o⟩ := by
    funext start
    simp only [cloudFlowFrom, CloudFlow.order, h.ids_eq,
      h.states_eq fun _ _ hn => hn.cloudAction_eq o]
  obtain ⟨hs, hs'⟩ | ⟨n, n', hs, hs', hid⟩ := h.start?_cases
  · simp only [cloudFlow_eq, hs, hs']
  · simp only [cloudFlow_eq, hs, hs', hid, hfrom]

theorem pbxFlow_of_retagged (r : Option Routing) :
    pbxFlow ⟨d', name, o⟩ r = pbxFlow ⟨d, name, o⟩ r := by
  have hfrom : pbxFlowFrom ⟨d', name, o⟩ r = pbxFlowFrom ⟨d, name, o⟩ r := by
    funext start
    simp only [pbxFlowFrom, h.ids_eq, h.states_eq fun _ _ hn => hn.pbxAction_eq]
  obtain ⟨hs, hs'⟩ | ⟨n, n', hs, hs', hid⟩ := h.start?_cases
  · simp only [pbxFlow_eq, hs, hs']
  · simp only [pbxFlow_eq, hs, hs', hid, hfrom]

theorem dialplanArtifact_of_retagged (r : Option Routing) :
    dialplanArtifact ⟨d', name, o⟩ r = dialplanArtifact ⟨d, name, o⟩ r := by
  rw [dialplanArtifact, dialplanArtifact, pbxFlow_of_retagged h]
  rfl

theorem extractMenu_of_retagged (extension context : String) :
    (extractMenu ⟨d, name, o⟩ extension context).SameButGreetings
      (extractMenu ⟨d', name, o⟩ extension context) := by
  rw [extractMenu_eq, extractMenu_eq, ← h.anchor_eq]
  cases d.anchor with
  | gather id g =>
    refine ⟨?_, fun hno => absurd rfl (hno id)⟩
    simp only [Menu.ofGather, h.gatherOption_eq]
  | _ => exact ⟨rfl, fun _ => rfl⟩

theorem compile_of_retagged (hplay : .play ∉ fs) (target : Target) (r : Option Routing) :
    compile ⟨d', name, o⟩ target r = compile ⟨d, name, o⟩ target r := by
  have hmenu : menuFor ⟨d', name, o⟩ r = menuFor ⟨d, name, o⟩ r := by
    simp only [menuFor, extractMenu_eq, h.anchor_eq, Menu.ofGather, h.gatherOption_eq,
      h.greetings_eq hplay]
  by_cases hempty : d.nodes = []
  · have hempty' : d'.nodes = [] := h.nodes_eq_nil_iff.mp hempty
    rw [compile_of_eq_nil hempty', compile_of_eq_nil hempty]
  · have hempty' : d'.nodes ≠ [] := mt h.nodes_eq_nil_iff.mpr hempty
    rw [compile_of_ne_nil hempty', compile_of_ne_nil hempty, hmenu, cloudFlow_of_retagged h,
      dialplanArtifact_of_retagged h]
    rfl

theorem compile_sameButGreetings (target : Target) (r : Option Routing) :
    compile ⟨d', name, o⟩ target r = compile ⟨d, name, o⟩ target r ∨
    ∃ m m', compile ⟨d, name, o⟩ target r = .ok (.menu m (m.rows name)) ∧
      compile ⟨d', name, o⟩ target r = .ok (.menu m' (m'.rows name)) ∧
      m.SameButGreetings m' ∧ (m.rows name).SameButGreetings (m'.rows name) := by
  have hmenu : (menuFor ⟨d, name, o⟩ r).SameButGreetings (menuFor ⟨d', name, o⟩ r) :=
    extractMenu_of_retagged h name o _ _
  have hrows := hmenu.rows name
  by_cases hempty : d.nodes = []
  · have hempty' : d'.nodes = [] := h.nodes_eq_nil_iff.mp hempty
    rw [compile_of_eq_nil hempty', compile_of_eq_nil hempty]
    exact .inl rfl
  · have hempty' : d'.nodes ≠ [] := mt h.nodes_eq_nil_iff.mpr hempty
    rw [compile_of_ne_nil hempty', compile_of_ne_nil hempty]
    cases target with
    | cloud =>
      rw [cloudFlow_of_retagged h]
      exact .inl rfl
    | dialplan =>
      rw [dialplanArtifact_of_retagged h]
      exact .inl rfl
    | menu => exact .inr ⟨_, _, rfl, rfl, hmenu, hrows⟩
    | auto =>
      simp only [dialplanArtifact_of_retagged h, hmenu.isFound_eq]
      split
      · exact .inr ⟨_, _, rfl, rfl, hmenu, hrows⟩
      · exact .inl rfl

omit h in
/-- Tags of one family stand for each other. It makes no difference which one a node has that hangs
up, records a voicemail or sends a message. The tag of a play node makes none to a flow or to a
dialplan; of a menu, and of the rows of a menu, it changes the greetings at most. -/
theorem compile_retagged (d d' : Diagram) (name : String) (o : Options) :
    (d.RetaggedIn [.hangUp, .voicemail, .sms] d' → ∀ target r,
      compile ⟨d', name, o⟩ target r = compile ⟨d, name, o⟩ target r) ∧
    (d.RetaggedIn [.hangUp, .voicemail, .sms, .play] d' →
      cloudFlow ⟨d', name, o⟩ = cloudFlow ⟨d, name, o⟩ ∧
      (∀ r, pbxFlow ⟨d', name, o⟩ r = pbxFlow ⟨d, name, o⟩ r) ∧
      (∀ r, compile ⟨d', name, o⟩ .cloud r = compile ⟨d, name, o⟩ .cloud r) ∧
      (∀ r, compile ⟨d', name, o⟩ .dialplan r = compile ⟨d, name, o⟩ .dialplan r) ∧
      (∀ extension context, (extractMenu ⟨d, name, o⟩ extension context).SameButGreetings
        (extractMenu ⟨d', name, o⟩ extension context)) ∧
      ∀ target r, compile ⟨d', name, o⟩ target r = compile ⟨d, name, o⟩ target r ∨
        ∃ m m', compile ⟨d, name, o⟩ target r = .ok (.menu m (m.rows name)) ∧
          compile ⟨d', name, o⟩ target r = .ok (.menu m' (m'.rows name)) ∧
          m.SameButGreetings m' ∧ (m.rows name).SameButGreetings (m'.rows name)) := by
  constructor
  · intro h target r
    exact compile_of_retagged h name o (by decide) target r
  · intro h
    refine ⟨cloudFlow_of_retagged h name o, pbxFlow_of_retagged h name o, ?_, ?_,
      extractMenu_of_retagged h name o, compile_sameButGreetings h name o⟩
    · intro r
      rw [compile_cloud_eq, compile_cloud_eq, cloudFlow_of_retagged h]
    · intro r
      rw [compile_dialplan_eq, compile_dialplan_eq, dialplanArtifact_of_retagged h]

end Job

/-- A hotline whose first and last nodes have these tags. -/
def hotline (play hangUp : String) : Job where
  diagram := {
    nodes := [
      .ofBag "hello" play [("messageType", .string "tts"), ("messageText", .string "Hello")],
      .ofBag "ask" "gather-input" [("menuOptions", .array [.object [("key", .string "1")]])],
      .ofBag "bye" hangUp [("reason", .string "Bye")]]
    edges := [⟨"e1", "hello", "ask", none⟩, ⟨"e2", "ask", "bye", some "1"⟩] }
  name := "Hotline"
  options := .default

theorem hotline_retagged (play : String) :
    (hotline play "hang-up").diagram.RetaggedIn [.hangUp, .voicemail, .sms]
      (hotline play "hang-up-call").diagram := by
  refine ⟨.cons (.same _) (.cons (.same _) (.cons ?_ .nil)), rfl⟩
  exact .retag List.mem_cons_self (by decide) (by decide)

theorem hotline_retagged_play :
    (hotline "play-message" "hang-up").diagram.RetaggedIn [.hangUp, .voicemail, .sms, .play]
      (hotline "play-audio-tts" "hang-up-call").diagram := by
  refine ⟨.cons ?_ (.cons (.same _) (.cons ?_ .nil)), rfl⟩
  · exact .retag (show .play ∈ _ by decide) (by decide) (by decide)
  · exact .retag List.mem_cons_self (by decide) (by decide)

theorem hotline_path (play hangUp : String) :
    (hotline play hangUp).diagram.index.path "hello" "ask" = ["hello", "ask"] :=
  Option.some.inj ((Diagram.pathWithin_eq (Nat.le_refl 6) "hello" "ask").symm.trans rfl)

theorem hotline_greetLong {play hangUp : String} {n : Node} {g : Gather}
    (hstart : (hotline play hangUp).diagram.StartsAt n) (hid : n.id = "hello")
    (hanchor : (hotline play hangUp).diagram.anchor = .gather "ask" g) :
    ((hotline play hangUp).menuFor none).greetLong =
      greetingOrDefault (((["hello", "ask"].filterMap (hotline play hangUp).diagram.node?).findSome?
        Node.greeting?).getD ("", "")).1 := by
  rw [Job.menuFor, Job.extractMenu_eq, hanchor]
  show ((hotline play hangUp).diagram.index.greetings "ask").1 = _
  rw [Diagram.greetings_index_of_startsAt hstart, hid, hotline_path]

/-- Of two tags of a play node only one makes the menu greet the caller with its text. -/
theorem hotline_compile_retagged :
    (hotline "play-message" "hang-up").diagram.RetaggedIn [.hangUp, .voicemail, .sms]
      (hotline "play-message" "hang-up-call").diagram ∧
    (∀ target r, (hotline "play-message" "hang-up-call").compile target r =
      (hotline "play-message" "hang-up").compile target r) ∧
    (hotline "play-message" "hang-up").diagram.RetaggedIn [.hangUp, .voicemail, .sms, .play]
      (hotline "play-audio-tts" "hang-up-call").diagram ∧
    (hotline "play-audio-tts" "hang-up-call").cloudFlow =
      (hotline "play-message" "hang-up").cloudFlow ∧
    (∀ extension context,
      ((hotline "play-message" "hang-up").extractMenu extension context).SameButGreetings
        ((hotline "play-audio-tts" "hang-up-call").extractMenu extension context)) ∧
    ((hotline "play-message" "hang-up").menuFor none).greetLong = "Welcome!" ∧
    ((hotline "play-audio-tts" "hang-up-call").menuFor none).greetLong = "Hello" := by
  have hsame := (Job.compile_retagged _ _ "Hotline" .default).1 (hotline_retagged "play-message")
  obtain ⟨hcloud, -, -, -, hmenu, -⟩ :=
    (Job.compile_retagged _ _ "Hotline" .default).2 hotline_retagged_play
  exact ⟨hotline_retagged "play-message", hsame, hotline_retagged_play, hcloud, hmenu,
    (hotline_greetLong (Diagram.start?_eq_some_iff.mp rfl) rfl rfl).trans rfl,
    (hotline_greetLong (Diagram.start?_eq_some_iff.mp rfl) rfl rfl).trans rfl⟩

end Switchboard
