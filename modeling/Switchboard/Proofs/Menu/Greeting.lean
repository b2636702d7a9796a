import Mathlib.Data.List.Forall2
import Switchboard.Proofs.Diagram.Alike
import Switchboard.Proofs.Diagram.Search
import Switchboard.Proofs.Menu.Renaming

/-!
# Switchboard.Proofs.Menu.Greeting

How a menu made of a gather node greets. On the path from the start to that node the first node that
greets has its say (`Diagram.FirstGreeter`); if it has nothing to say, the ones after it are not
asked. A node that greets nobody or comes too late has no say, so that nothing changes if it gets
other properties (`Diagram.SameKinds`).

* `Diagram.greetings_of_firstGreeter`, `Diagram.greetings_of_no_greeter`: whose greetings they are.
* `Diagram.greetings_eq_of_sameKinds`: what they do not depend on.
* `Job.greetings_selected`: both, said of the menu.
-/

namespace Switchboard

/-! ## What greets -/

/-- The node answers the call, or it is a play node with the one tag that greets. -/
inductive Node.Greets (n : Node) : Prop where
  | answer : n.step = .answer → Greets n
  | play {p : Prompt} : n.step = .play p → n.tag = "play-audio-tts" → Greets n

/-- What a message greets with, in full and in short: a text and its first 100 characters, a file
both times, and the default if there is nothing to be heard. -/
inductive Message.GreetsWith : Message → String × String → Prop where
  | speech {text short rest : String} : text ≠ "" → text = short ++ rest →
      short.length = min 100 text.length → GreetsWith (.speech text) (text, short)
  | audio {file : String} : file ≠ "" → GreetsWith (.audio file) (file, file)
  | nothing {m : Message} : m ∈ [.speech "", .audio "", .silence] →
      GreetsWith m ("Welcome!", "Welcome!")

inductive Step.GreetsWith : Step → String × String → Prop where
  | answer : GreetsWith .answer ("Welcome to our IVR system!", "Welcome!")
  | play {p : Prompt} {greetings : String × String} : p.message.GreetsWith greetings →
      GreetsWith (.play p) greetings

theorem Message.GreetsWith.of_long {text : String} {greetings : String × String}
    (h : (Message.speech text).GreetsWith greetings) (hlong : 100 ≤ text.length) :
    ∃ short rest, greetings = (text, short) ∧ text = short ++ rest ∧ short.length = 100 := by
  cases h with
  | @speech _ short rest _ hsplit hlength =>
    exact ⟨short, rest, rfl, hsplit, hlength.trans (Nat.min_eq_left hlong)⟩
  | nothing hm =>
    have hempty : text = "" := by simpa using hm
    rw [hempty] at hlong
    cases hlong

/-- The node is the first one that greets of those that the ids of the path belong to. -/
structure Diagram.FirstGreeter (d : Diagram) (path : List String) (n : Node) : Prop where
  node?_eq : d.node? n.id = some n
  greets : n.Greets
  first : ∃ before after, path = before ++ n.id :: after ∧
    ∀ id ∈ before, ∀ m, d.node? id = some m → ¬ m.Greets

theorem greetingOrDefault_of_ne {s : String} (h : s ≠ "") : greetingOrDefault s = s :=
  if_neg (by rwa [String.isEmpty_iff])

theorem greetingOrDefault_ne_empty (s : String) : greetingOrDefault s ≠ "" := by
  by_cases h : s = ""
  · subst h
    decide
  · rwa [greetingOrDefault_of_ne h]

def orDefault (greetings : String × String) : String × String :=
  (greetingOrDefault greetings.1, greetingOrDefault greetings.2)

theorem Message.greetsWith_speech (text : String) :
    (Message.speech text).GreetsWith
      (orDefault (text, String.ofList (text.toList.take shortGreetingLength))) := by
  by_cases h : text = ""
  · subst h
    exact .nothing List.mem_cons_self
  · have hsplit : text = String.ofList (text.toList.take 100) ++
        String.ofList (text.toList.drop 100) := by
      rw [← String.ofList_append, List.take_append_drop, String.ofList_toList]
    have hlength : (String.ofList (text.toList.take 100)).length = min 100 text.length := by
      rw [String.length_ofList, List.length_take, String.length_toList]
    -- The short form is empty only if the text is, so the default stands in for both or for none.
    have hshort : String.ofList (text.toList.take 100) ≠ "" := by
      intro hempty
      rw [hempty, String.length_empty] at hlength
      have hzero : text.length = 0 := by omega
      exact h (String.length_eq_zero_iff.mp hzero)
    rw [orDefault, greetingOrDefault_of_ne h]
    show GreetsWith _ (_, greetingOrDefault (String.ofList (text.toList.take 100)))
    rw [greetingOrDefault_of_ne hshort]
    exact .speech h hsplit hlength

theorem Message.greetsWith_audio (file : String) :
    (Message.audio file).GreetsWith (orDefault (file, file)) := by
  by_cases h : file = ""
  · subst h
    exact .nothing (by simp)
  · rw [orDefault, greetingOrDefault_of_ne h]
    exact .audio h

namespace Node

theorem greeting?_eq_none_iff {n : Node} : n.greeting? = none ↔ ¬ n.Greets := by
  constructor
  · rintro h (hstep | ⟨hstep, htag⟩)
    · simp [greeting?, hstep] at h
    · rw [greeting?, hstep] at h
      simp only [if_pos htag] at h
      split at h <;> cases h
  · intro h
    unfold greeting?
    split
    · next hstep => exact absurd (.answer hstep) h
    · next hstep => exact if_neg fun htag => h (.play hstep htag)
    · rfl

theorem Greets.greetsWith {n : Node} (h : n.Greets) :
    ∃ greetings, n.greeting? = some greetings ∧ n.step.GreetsWith (orDefault greetings) := by
  obtain hstep | @⟨p, hstep, htag⟩ := h
  · exact ⟨("Welcome to our IVR system!", "Welcome!"), by rw [greeting?, hstep],
      hstep ▸ .answer⟩
  · rw [greeting?, hstep]
    simp only [if_pos htag]
    cases hm : p.message with
    | speech text => exact ⟨_, rfl, .play (hm ▸ Message.greetsWith_speech text)⟩
    | audio file => exact ⟨_, rfl, .play (hm ▸ Message.greetsWith_audio file)⟩
    | silence => exact ⟨_, rfl, .play (hm ▸ .nothing (by simp))⟩

end Node

/-! ## Whose greetings they are -/

namespace Diagram

variable {d : Diagram} {path : List String} {n start : Node} {goal : String}

theorem findSome?_greeting?_eq_bind (d : Diagram) (path : List String) :
    (path.filterMap d.node?).findSome? Node.greeting? =
      path.findSome? fun id => (d.node? id).bind Node.greeting? := by
  rw [← List.head?_filterMap, List.filterMap_filterMap, List.head?_filterMap]

theorem bind_greeting?_eq_none_iff {id : String} :
    (d.node? id).bind Node.greeting? = none ↔ ∀ m, d.node? id = some m → ¬ m.Greets := by
  rw [Option.bind_eq_none_iff]
  exact forall₂_congr fun m _ => Node.greeting?_eq_none_iff

theorem exists_firstGreeter {id : String} (hid : id ∈ path) (hn : d.node? id = some n)
    (hgreets : n.Greets) : ∃ m, d.FirstGreeter path m := by
  induction path with
  | nil => cases hid
  | cons i path ih =>
    -- The first greeter of the rest is the first of all, unless the node of `i` greets.
    by_cases hi : ∃ m, d.node? i = some m ∧ m.Greets
    · obtain ⟨m, hm, hgreets⟩ := hi
      obtain rfl := id_of_node? hm
      exact ⟨m, hm, hgreets, [], path, rfl, fun _ hmem => absurd hmem List.not_mem_nil⟩
    · have hne : id ≠ i := by
        rintro rfl
        exact hi ⟨n, hn, hgreets⟩
      obtain ⟨m, hm, hmgreets, before, after, rfl, hbefore⟩ :=
        ih ((List.mem_cons.mp hid).resolve_left hne)
      refine ⟨m, hm, hmgreets, i :: before, after, rfl, List.forall_mem_cons.mpr ⟨?_, hbefore⟩⟩
      exact fun m hm hgreets => hi ⟨m, hm, hgreets⟩

theorem FirstGreeter.unique {m : Node} (hm : d.FirstGreeter path m) (hn : d.FirstGreeter path n) :
    m = n := by
  obtain ⟨before, after, hpath, hbefore⟩ := hm.first
  obtain ⟨before', after', hpath', hbefore'⟩ := hn.first
  have hid : m.id = n.id := by
    -- If one of the two ids comes before the other, it is among those that greet nobody.
    obtain ⟨between, hsplit, hrest⟩ | ⟨between, hsplit, hrest⟩ :=
      List.append_eq_append_iff.mp (hpath.symm.trans hpath')
    · obtain ⟨rfl, hcons⟩ | ⟨rest, rfl, -⟩ := List.cons_eq_append_iff.mp hrest
      · exact (List.cons.inj hcons).1.symm
      · exact absurd hm.greets (hbefore' m.id (by simp [hsplit]) m hm.node?_eq)
    · obtain ⟨rfl, hcons⟩ | ⟨rest, rfl, -⟩ := List.cons_eq_append_iff.mp hrest
      · exact (List.cons.inj hcons).1
      · exact absurd hn.greets (hbefore n.id (by simp [hsplit]) n hn.node?_eq)
  exact Option.some.inj (hm.node?_eq.symm.trans (hid ▸ hn.node?_eq))

theorem greetings_eq_of_firstGreeter (hstart : d.StartsAt start)
    (h : d.FirstGreeter (d.index.path start.id goal) n) :
    d.index.greetings goal = orDefault (n.greeting?.getD ("", "")) := by
  obtain ⟨before, after, hpath, hbefore⟩ := h.first
  obtain ⟨greetings, hgreeting, -⟩ := h.greets.greetsWith
  have hfirst : ((d.index.path start.id goal).filterMap d.node?).findSome? Node.greeting? =
      some greetings := by
    rw [findSome?_greeting?_eq_bind, List.findSome?_eq_some_iff]
    refine ⟨before, n.id, after, hpath, ?_, ?_⟩
    · rw [h.node?_eq, Option.bind_some, hgreeting]
    · intro id hid
      exact bind_greeting?_eq_none_iff.mpr (hbefore id hid)
  rw [greetings_index_of_startsAt hstart, hfirst, hgreeting]
  rfl

theorem greetings_of_firstGreeter (hstart : d.StartsAt start)
    (h : d.FirstGreeter (d.index.path start.id goal) n) :
    n.step.GreetsWith (d.index.greetings goal) := by
  obtain ⟨greetings, hgreeting, hwith⟩ := h.greets.greetsWith
  rw [greetings_eq_of_firstGreeter hstart h, hgreeting]
  exact hwith

theorem greetings_of_no_greeter (hstart : d.StartsAt start)
    (h : ∀ id ∈ d.index.path start.id goal, ∀ m, d.node? id = some m → ¬ m.Greets) :
    d.index.greetings goal = ("Welcome!", "Welcome!") := by
  have hnone : ((d.index.path start.id goal).filterMap d.node?).findSome? Node.greeting? =
      none := by
    rw [findSome?_greeting?_eq_bind, List.findSome?_eq_none_iff]
    intro id hid
    exact bind_greeting?_eq_none_iff.mpr (h id hid)
  rw [greetings_index_of_startsAt hstart, hnone]
  decide

theorem greetings_of_not_reaches (hstart : d.StartsAt start) (h : ¬ d.Reaches start.id goal) :
    d.index.greetings goal = ("Welcome!", "Welcome!") := by
  have hpath : d.index.path start.id goal = [] := by
    by_contra hne
    exact h (path_ne_nil_iff.mp hne).2
  refine greetings_of_no_greeter hstart fun id hid => ?_
  rw [hpath] at hid
  cases hid

end Diagram

/-! ## What they do not depend on -/

/-- The steps are of one kind, whatever their properties. -/
inductive Step.SameKind : Step → Step → Prop where
  | answer : SameKind .answer .answer
  | play (p p' : Prompt) : SameKind (.play p) (.play p')
  | gather (g g' : Gather) : SameKind (.gather g) (.gather g')
  | forward (f f' : Forward) : SameKind (.forward f) (.forward f')
  | hangUp (reason reason' : String) : SameKind (.hangUp reason) (.hangUp reason')
  | record (r r' : Recording) : SameKind (.record r) (.record r')
  | sms (s s' : Sms) : SameKind (.sms s) (.sms s')
  | menu (s s' : MenuSettings) : SameKind (.menu s) (.menu s')
  | other (bag bag' : Bag) : SameKind (.other bag) (.other bag')

structure Node.SameKind (n n' : Node) : Prop where
  id_eq : n'.id = n.id
  tag_eq : n'.tag = n.tag
  step_sameKind : n.step.SameKind n'.step

/-- The nodes have other properties at most. -/
structure Diagram.SameKinds (d d' : Diagram) : Prop where
  nodes_sameKind : List.Forall₂ Node.SameKind d.nodes d'.nodes
  edges_eq : d'.edges = d.edges

theorem Node.SameKind.greets_of_greets {n n' : Node} (h : n.SameKind n') (hgreets : n'.Greets) :
    n.Greets := by
  have hkind := h.step_sameKind
  obtain hstep' | ⟨hstep', htag⟩ := hgreets
  · rw [hstep'] at hkind
    generalize hstep : n.step = s at hkind
    cases hkind
    exact .answer hstep
  · rw [hstep'] at hkind
    generalize hstep : n.step = s at hkind
    cases hkind
    exact .play hstep (h.tag_eq ▸ htag)

namespace Diagram

variable {d d' : Diagram} (h : d.SameKinds d') {path : List String} {n start : Node} {goal : String}
include h

namespace SameKinds

theorem node?_rel (id : String) : Option.Rel Node.SameKind (d.node? id) (d'.node? id) :=
  node?_of_forall₂ h.nodes_sameKind (fun _ _ hn => hn.id_eq.symm) id

theorem exists_startsAt (hstart : d.StartsAt start) :
    ∃ start', d'.StartsAt start' ∧ start'.id = start.id := by
  have htarget (id : String) : d.isTarget id = d'.isTarget id := by
    rw [isTarget, isTarget, h.edges_eq]
  have hrel := start?_of_forall₂ h.nodes_sameKind (fun _ _ hn => hn.id_eq.symm) htarget
  obtain ⟨start', hstart', hkind⟩ := exists_of_rel hrel (start?_eq_some_iff.mpr hstart)
  exact ⟨start', start?_eq_some_iff.mp hstart', hkind.id_eq⟩

theorem path_eq (source goal : String) : d'.index.path source goal = d.index.path source goal := by
  have hnode : d'.hasNode source = d.hasNode source := by
    have hrel := h.node?_rel source
    rw [← isSome_node?, ← isSome_node?]
    generalize d.node? source = x at hrel ⊢
    generalize d'.node? source = x' at hrel ⊢
    cases hrel <;> rfl
  refine path_index_congr goal hnode fun id _ => ?_
  rw [successors, successors, outgoing, outgoing, h.edges_eq]

theorem not_greets {id : String} (hid : ∀ m, d.node? id = some m → ¬ m.Greets) :
    ∀ m', d'.node? id = some m' → ¬ m'.Greets := by
  intro m' hm' hgreets
  have hrel := h.node?_rel id
  rw [hm'] at hrel
  generalize hm : d.node? id = x at hrel
  cases hrel with
  | some hkind => exact hid _ hm (hkind.greets_of_greets hgreets)

theorem firstGreeter (hn : d.FirstGreeter path n) (hkept : d'.node? n.id = some n) :
    d'.FirstGreeter path n := by
  obtain ⟨before, after, hpath, hbefore⟩ := hn.first
  exact ⟨hkept, hn.greets, before, after, hpath, fun id hid => h.not_greets (hbefore id hid)⟩

end SameKinds

/-- The greetings are the same as long as the first node that greets is. -/
theorem greetings_eq_of_sameKinds (hstart : d.StartsAt start)
    (hkept : ∀ m, d.FirstGreeter (d.index.path start.id goal) m → d'.node? m.id = some m) :
    d'.index.greetings goal = d.index.greetings goal := by
  obtain ⟨start', hstart', hid⟩ := h.exists_startsAt hstart
  have hpath : d'.index.path start'.id goal = d.index.path start.id goal := by
    rw [hid, h.path_eq]
  by_cases hfirst : ∃ m, d.FirstGreeter (d.index.path start.id goal) m
  · obtain ⟨m, hm⟩ := hfirst
    have hm' : d'.FirstGreeter (d'.index.path start'.id goal) m :=
      hpath ▸ h.firstGreeter hm (hkept m hm)
    rw [greetings_eq_of_firstGreeter hstart hm, greetings_eq_of_firstGreeter hstart' hm']
  · have hnone : ∀ id ∈ d.index.path start.id goal, ∀ m, d.node? id = some m → ¬ m.Greets :=
      fun id hid m hm hgreets => hfirst (exists_firstGreeter hid hm hgreets)
    rw [greetings_of_no_greeter hstart hnone, greetings_of_no_greeter hstart']
    intro id hid
    exact h.not_greets (hnone id (hpath ▸ hid))

end Diagram

/-! ## The greetings of a menu -/

def Menu.greetings (m : Menu) : String × String := (m.greetLong, m.greetShort)

theorem Job.greetings_extractMenu {j : Job} {before : List Node} {n : Node} {g : Gather}
    (h : j.diagram.AnchoredAt before n g) (extension context : String) :
    (j.extractMenu extension context).greetings = j.diagram.index.greetings n.id := by
  rw [extractMenu_of_anchoredAt h]
  rfl

/-- The first node that greets on the path from the start to the gather node says how the menu
greets; where there is none, and where there is no path, the menu greets with the default. Both
greetings say something, and the properties of other nodes, of whatever diagram of the same kinds of
nodes, do not change them. -/
theorem Job.greetings_selected {j : Job} {before : List Node} {n : Node} {g : Gather}
    (h : j.diagram.AnchoredAt before n g) (extension context : String) :
    ∃ start, j.diagram.StartsAt start ∧
      (∀ m, j.diagram.FirstGreeter (j.diagram.index.path start.id n.id) m →
        m.step.GreetsWith (j.extractMenu extension context).greetings) ∧
      ((∀ id ∈ j.diagram.index.path start.id n.id, ∀ m, j.diagram.node? id = some m →
          ¬ m.Greets) →
        (j.extractMenu extension context).greetings = ("Welcome!", "Welcome!")) ∧
      (¬ j.diagram.Reaches start.id n.id →
        (j.extractMenu extension context).greetings = ("Welcome!", "Welcome!")) ∧
      (j.extractMenu extension context).greetLong ≠ "" ∧
      (j.extractMenu extension context).greetShort ≠ "" ∧
      ∀ (j' : Job) (before' : List Node) (n' : Node) (g' : Gather) (extension' context' : String),
        j'.diagram.AnchoredAt before' n' g' → n'.id = n.id → j.diagram.SameKinds j'.diagram →
        (∀ m, j.diagram.FirstGreeter (j.diagram.index.path start.id n.id) m →
          j'.diagram.node? m.id = some m) →
        (j'.extractMenu extension' context').greetings =
          (j.extractMenu extension context).greetings := by
  obtain ⟨after, hnodes⟩ := h.nodes_eq
  obtain ⟨start, hstart⟩ : ∃ start, j.diagram.StartsAt start :=
    Diagram.exists_startsAt (by simp [hnodes])
  have hgreetings := greetings_extractMenu h extension context
  have hne : (j.extractMenu extension context).greetLong ≠ "" ∧
      (j.extractMenu extension context).greetShort ≠ "" := by
    rw [Diagram.greetings_index_of_startsAt hstart] at hgreetings
    obtain ⟨hlong, hshort⟩ := Prod.mk.inj hgreetings
    exact ⟨hlong ▸ greetingOrDefault_ne_empty _, hshort ▸ greetingOrDefault_ne_empty _⟩
  rw [hgreetings]
  refine ⟨start, hstart, fun m hm => Diagram.greetings_of_firstGreeter hstart hm,
    Diagram.greetings_of_no_greeter hstart, Diagram.greetings_of_not_reaches hstart,
    hne.1, hne.2, ?_⟩
  intro j' before' n' g' extension' context' h' hid hkinds hkept
  rw [greetings_extractMenu h', hid]
  exact Diagram.greetings_eq_of_sameKinds hkinds hstart hkept

def gasp (n : Nat) : String := String.ofList ('O' :: List.replicate n 'h')

theorem length_gasp (n : Nat) : (gasp n).length = n + 1 := by
  unfold gasp
  simp only [String.length_ofList, List.length_cons, List.length_replicate]

/-- On the way to the menu, callers hear two prompts and pass an id without a node. The first prompt
is of the kind that does not greet, and the call is answered after the second one. -/
def theatre (hold welcome : String) : Job where
  diagram := {
    nodes := [
      ⟨"gate", "play-message", none, .play ⟨.speech hold, none, "en-US"⟩⟩,
      ⟨"foyer", "play-audio-tts", none, .play ⟨.speech welcome, none, "en-US"⟩⟩,
      .ofStep "bell" .answer,
      .ofBag "ask" "gather-input" [("menuOptions", .array [.object [("key", .string "1")]])]]
    edges := [⟨"e1", "gate", "stairs", none⟩, ⟨"e2", "stairs", "foyer", none⟩,
      ⟨"e3", "foyer", "bell", none⟩, ⟨"e4", "bell", "ask", none⟩] }
  name := "Theatre"
  options := .default

theorem theatre_anchoredAt (hold welcome : String) :
    ∃ before n g, n.id = "ask" ∧ (theatre hold welcome).diagram.AnchoredAt before n g := by
  refine ⟨[_, _, _], _, _, rfl, ⟨[], rfl⟩, rfl, List.cons_ne_nil _ _, ?_, ?_⟩
  · intro m hm s
    obtain rfl | rfl | rfl | rfl : m = _ ∨ m = _ ∨ m = _ ∨ m = _ := by simpa [theatre] using hm
    all_goals exact nofun
  · intro m hm g' hg'
    obtain rfl | rfl | rfl : m = _ ∨ m = _ ∨ m = _ := by simpa using hm
    all_goals cases hg'

theorem theatre_startsAt {hold welcome : String} {start : Node}
    (h : (theatre hold welcome).diagram.StartsAt start) : start.id = "gate" := by
  have hgate : (theatre hold welcome).diagram.start? =
      some ⟨"gate", "play-message", none, .play ⟨.speech hold, none, "en-US"⟩⟩ := rfl
  rw [h.unique (Diagram.start?_eq_some_iff.mp hgate)]

theorem theatre_path (hold welcome : String) :
    (theatre hold welcome).diagram.index.path "gate" "ask" =
      ["gate", "stairs", "foyer", "bell", "ask"] :=
  Option.some.inj ((Diagram.pathWithin_eq (Nat.le_refl 10) "gate" "ask").symm.trans rfl)

theorem theatre_firstGreeter (hold welcome : String) :
    (theatre hold welcome).diagram.FirstGreeter ["gate", "stairs", "foyer", "bell", "ask"]
      ⟨"foyer", "play-audio-tts", none, .play ⟨.speech welcome, none, "en-US"⟩⟩ := by
  refine ⟨rfl, .play rfl rfl, ["gate", "stairs"], ["bell", "ask"], rfl, ?_⟩
  intro id hid m hm hgreets
  obtain rfl | rfl : id = "gate" ∨ id = "stairs" := by simpa using hid
  · cases hm
    obtain hstep | ⟨-, htag⟩ := hgreets
    · cases hstep
    · exact absurd htag (show "play-message" ≠ "play-audio-tts" by decide)
  · cases hm

theorem theatre_sameKinds (hold hold' welcome : String) :
    (theatre hold welcome).diagram.SameKinds (theatre hold' welcome).diagram :=
  ⟨.cons ⟨rfl, rfl, .play _ _⟩ (.cons ⟨rfl, rfl, .play _ _⟩ (.cons ⟨rfl, rfl, .answer⟩
    (.cons ⟨rfl, rfl, .gather _ _⟩ .nil))), rfl⟩

/-- The menu greets with the second prompt, whatever the first one says. -/
theorem theatre_greetings_selected :
    (∃ before n g, (theatre "Please hold" (gasp 120)).diagram.AnchoredAt before n g) ∧
    (∃ short rest, ((theatre "Please hold" (gasp 120)).extractMenu "2000" "default").greetings =
        (gasp 120, short) ∧ gasp 120 = short ++ rest ∧ short.length = 100) ∧
    ∀ hold, ((theatre hold (gasp 120)).extractMenu "3000" "public").greetings =
      ((theatre "Please hold" (gasp 120)).extractMenu "2000" "default").greetings := by
  obtain ⟨before, n, g, hid, hanchor⟩ := theatre_anchoredAt "Please hold" (gasp 120)
  obtain ⟨start, hstart, hgreets, -, -, -, -, hkept⟩ :=
    Job.greetings_selected hanchor "2000" "default"
  rw [hid, theatre_startsAt hstart, theatre_path] at hgreets hkept
  refine ⟨⟨before, n, g, hanchor⟩, ?_, fun hold => ?_⟩
  · have hlong : 100 ≤ (gasp 120).length := by
      rw [length_gasp]
      omega
    obtain - | hwith := hgreets _ (theatre_firstGreeter "Please hold" (gasp 120))
    exact hwith.of_long hlong
  · obtain ⟨before', n', g', hid', hanchor'⟩ := theatre_anchoredAt hold (gasp 120)
    refine hkept (theatre hold (gasp 120)) before' n' g' "3000" "public" hanchor' hid'
      (theatre_sameKinds "Please hold" hold (gasp 120)) ?_
    intro m hm
    rw [hm.unique (theatre_firstGreeter "Please hold" (gasp 120))]
    rfl

end Switchboard
