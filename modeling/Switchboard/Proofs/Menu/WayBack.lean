import Switchboard.Proofs.Diagram.Alike
import Switchboard.Proofs.Menu.Anchor
import Switchboard.Proofs.Menu.Way

/-!
# Switchboard.Proofs.Menu.WayBack

Where the options of a gather node lead. An option takes the first edge whose label is the value,
the key or the label of its entry; what the other entries are does not matter. An option without an
edge goes back to the extension of the menu, but always among the internal extensions: a menu that
answers elsewhere is not found again.

* `MenuEntry.edge?_eq_some_iff`, `MenuEntry.edge?_eq_none_iff`: which edge an entry takes.
* `Diagram.destination_resolve_congr`: a way only depends on what its nodes decide.
* `Job.options_lead`: all options of a menu.
* `public_menu_not_led_back_to`: the way back from a menu for inbound calls.
-/

namespace Switchboard

namespace MenuEntry

/-- The edge leaves the node, and its label belongs to the entry. -/
def Takes (e : MenuEntry) (source : String) (edge : Edge) : Prop :=
  edge.source = source ∧ ∃ label, edge.label = some label ∧
    (e.value = some label ∨ e.key = some label ∨ e.label = some label)

/-- Of all edges this is the first one that the entry takes. -/
def TakesFirst (e : MenuEntry) (edges : List Edge) (source : String) (edge : Edge) : Prop :=
  ∃ before after, edges = before ++ edge :: after ∧ e.Takes source edge ∧
    ∀ x ∈ before, ¬ e.Takes source x

/-- The option leads where the entry's edge does. Without an edge it leads to the extension of the
menu in the context `default`, and so to the menu just if that is where it answers. -/
structure Leads (e : MenuEntry) (j : Job) (source : String) (m : Menu) (o : MenuOption) : Prop where
  back : (∀ edge ∈ j.diagram.edges, ¬ e.Takes source edge) →
    o.destination = .transfer m.extension "default" ∧
    (o.destination = .transfer m.extension m.context ↔ m.context = "default")
  on : ∀ edge, e.TakesFirst j.diagram.edges source edge →
    o.destination = (j.diagram.index.resolve j.options edge.target).destination

end MenuEntry

inductive Node.SameButEntries : Node → Node → Prop where
  | refl (n : Node) : SameButEntries n n
  | entries {n : Node} {g : Gather} (es : List MenuEntry) : n.step = .gather g →
      SameButEntries n { n with step := .gather { g with entries := es } }

structure Job.SameButEntries (j j' : Job) : Prop where
  options_eq : j'.options = j.options
  edges_eq : j'.diagram.edges = j.diagram.edges
  nodes : List.Forall₂ Node.SameButEntries j.diagram.nodes j'.diagram.nodes

/-! ## The edge of an entry -/

namespace MenuEntry

variable {e : MenuEntry} {d : Diagram} {source : String} {edge : Edge}

theorem takes_iff :
    e.Takes source edge ↔ edge.source = source ∧ edge.label.any e.matchesLabel = true := by
  rw [Takes]
  refine and_congr_right fun _ => ?_
  cases edge.label with
  | none => simp
  | some label => simp [matchesLabel, or_assoc]

instance (e : MenuEntry) (source : String) : DecidablePred (e.Takes source) :=
  fun _ => decidable_of_iff _ takes_iff.symm

theorem edge?_eq_find? : e.edge? (d.outgoing source) = d.edges.find? (e.Takes source ·) := by
  rw [edge?, Diagram.outgoing, List.find?_filter]
  congr 1
  funext edge
  rw [decide_eq_decide, takes_iff, beq_iff_eq]
  cases edge.label <;> rfl

theorem edge?_eq_some_iff :
    e.edge? (d.outgoing source) = some edge ↔ e.TakesFirst d.edges source edge := by
  rw [edge?_eq_find?, List.find?_eq_some_iff_append, TakesFirst]
  simp only [decide_eq_true_eq, Bool.not_eq_true', decide_eq_false_iff_not]
  constructor
  · rintro ⟨htakes, before, after, hedges, hbefore⟩
    exact ⟨before, after, hedges, htakes, hbefore⟩
  · rintro ⟨before, after, hedges, htakes, hbefore⟩
    exact ⟨htakes, before, after, hedges, hbefore⟩

theorem edge?_eq_none_iff :
    e.edge? (d.outgoing source) = none ↔ ∀ edge ∈ d.edges, ¬ e.Takes source edge := by
  rw [edge?_eq_find?, List.find?_eq_none]
  simp only [decide_eq_true_eq]

theorem leads_gatherOption (j : Job) {m : Menu} (position : Nat) :
    e.Leads j source m (e.gatherOption j.diagram.index j.options source m.extension position) where
  back hnone := by
    rw [← edge?_eq_none_iff] at hnone
    have hback :
        (e.gatherOption j.diagram.index j.options source m.extension position).destination =
          .transfer m.extension "default" := by
      rw [gatherOption, Diagram.outgoing_index, hnone]
      rfl
    rw [hback]
    simp [eq_comm]
  on edge hedge := by
    rw [← edge?_eq_some_iff] at hedge
    rw [gatherOption, Diagram.outgoing_index, hedge]

end MenuEntry

/-! ## The entries of other nodes -/

namespace Node.SameButEntries

variable {n n' : Node} (h : n.SameButEntries n')
include h

theorem id_eq : n.id = n'.id := by
  cases h <;> rfl

theorem passesOn_eq : n.step.passesOn = n'.step.passesOn := by
  cases h with
  | refl => rfl
  | entries es hstep =>
    rw [hstep]
    rfl

theorem decision_eq (o : Options) : n.step.decision o = n'.step.decision o := by
  cases h with
  | refl => rfl
  | entries es hstep =>
    rw [hstep]
    rfl

end Node.SameButEntries

namespace Diagram

variable {d d' : Diagram} (o : Options)

/-- A way has one end at most, and what is decided there is all that counts. -/
theorem destination_resolve_congr (hstep : d.passOn? = d'.passOn?)
    (hdecision : d.decisionAt o = d'.decisionAt o) (id : String) :
    (d.index.resolve o id).destination = (d'.index.resolve o id).destination := by
  obtain ⟨k, x, hx, hend, hres⟩ | ⟨hall, x, hres⟩ := d.resolve_spec o id
  · obtain ⟨k', x', hx', hend', hres'⟩ | ⟨hall', -⟩ := d'.resolve_spec o id
    · rw [← hstep] at hx' hend'
      rw [hres, hres', chain_end_unique hx hend hx' hend', hdecision]
    · refine absurd ?_ (hall' (k + 1))
      rw [← hstep, chain, hx, Option.bind_some, hend]
  · obtain ⟨k', x', hx', hend', -⟩ | ⟨-, x', hres'⟩ := d'.resolve_spec o id
    · refine absurd ?_ (hall (k' + 1))
      rw [hstep, chain, hx', Option.bind_some, hend']
    · rw [hres, hres']

variable (hnodes : List.Forall₂ Node.SameButEntries d.nodes d'.nodes) (hedges : d'.edges = d.edges)
include hnodes

theorem node?_sameButEntries (id : String) :
    Option.Rel Node.SameButEntries (d.node? id) (d'.node? id) :=
  node?_of_forall₂ hnodes (fun _ _ h => h.id_eq) id

theorem decisionAt_sameButEntries : d.decisionAt o = d'.decisionAt o := by
  funext id
  rw [decisionAt, decisionAt]
  exact congrArg (·.getD o.lastResort)
    (bind_eq_of_rel (node?_sameButEntries hnodes id) fun _ _ h => h.decision_eq o)

include hedges

theorem next?_sameButEntries (id : String) : d.next? id = d'.next? id := by
  have htarget (e : Edge) : d.targetOf? e = d'.targetOf? e := by
    rw [targetOf?, targetOf?, ← isSome_node?, ← isSome_node?,
      isSome_eq_of_rel (node?_sameButEntries hnodes e.target)]
  rw [next?, next?, outgoing, outgoing, hedges, funext htarget]

theorem passOn?_sameButEntries : d.passOn? = d'.passOn? := by
  funext id
  rw [passOn?, passOn?, next?_sameButEntries hnodes hedges]
  exact bind_eq_of_rel (node?_sameButEntries hnodes id) fun _ _ h => by rw [h.passesOn_eq]

theorem destination_resolve_sameButEntries (id : String) :
    (d.index.resolve o id).destination = (d'.index.resolve o id).destination :=
  destination_resolve_congr o (passOn?_sameButEntries hnodes hedges)
    (decisionAt_sameButEntries o hnodes) id

end Diagram

/-! ## All options -/

namespace Job

variable {j j' : Job} {e : MenuEntry}

theorem destination_gatherOption_eq (h : j.SameButEntries j') (source extension : String)
    (position position' : Nat) :
    (e.gatherOption j'.diagram.index j'.options source extension position').destination =
      (e.gatherOption j.diagram.index j.options source extension position).destination := by
  have houtgoing : j'.diagram.outgoing source = j.diagram.outgoing source := by
    rw [Diagram.outgoing, Diagram.outgoing, h.edges_eq]
  rw [MenuEntry.gatherOption, MenuEntry.gatherOption, Diagram.outgoing_index,
    Diagram.outgoing_index, houtgoing, h.options_eq]
  cases e.edge? (j.diagram.outgoing source) with
  | none => rfl
  | some edge =>
    exact (Diagram.destination_resolve_sameButEntries j.options h.nodes h.edges_eq edge.target).symm

theorem getElem?_options_of_anchoredAt {before : List Node} {n : Node} {g : Gather}
    (h : j.diagram.AnchoredAt before n g) (extension context : String) {i : Nat}
    (he : g.entries[i]? = some e) :
    (j.extractMenu extension context).options[i]? =
      some (e.gatherOption j.diagram.index j.options n.id extension (i + 1)) := by
  rw [extractMenu_of_anchoredAt h, Menu.ofGather, List.getElem?_mapIdx, he]
  rfl

/-- The options of a menu that is made from a gather node, entry by entry: each leads where its own
edge does or back, whatever the other entries are. -/
theorem options_lead (j : Job) (before : List Node) (n : Node) (g : Gather)
    (h : j.diagram.AnchoredAt before n g) (extension context : String) :
    (j.extractMenu extension context).extension = extension ∧
    (j.extractMenu extension context).context = context ∧
    List.Forall₂ (fun e o => e.Leads j n.id (j.extractMenu extension context) o) g.entries
      (j.extractMenu extension context).options ∧
    ∀ (j' : Job) (before' : List Node) (n' : Node) (g' : Gather) (context' : String),
      j.SameButEntries j' → j'.diagram.AnchoredAt before' n' g' → n'.id = n.id →
      ∀ (i i' : Nat) (e : MenuEntry), g.entries[i]? = some e → g'.entries[i']? = some e →
        ((j'.extractMenu extension context').options[i']?).map (·.destination) =
          ((j.extractMenu extension context).options[i]?).map (·.destination) := by
  have hmenu := extractMenu_of_anchoredAt h extension context
  refine ⟨by rw [hmenu]; rfl, by rw [hmenu]; rfl, ?_, ?_⟩
  · rw [hmenu, List.forall₂_iff_get]
    refine ⟨by simp [Menu.ofGather], fun i hi hi' => ?_⟩
    simp only [Menu.ofGather, List.get_eq_getElem, List.getElem_mapIdx]
    exact MenuEntry.leads_gatherOption
      (m := .ofGather _ _ n.id g j.name extension context) j (i + 1)
  · intro j' before' n' g' context' hsame h' hid i i' e he he'
    rw [getElem?_options_of_anchoredAt h extension context he,
      getElem?_options_of_anchoredAt h' extension context' he', Option.map_some, Option.map_some,
      hid, destination_gatherOption_eq hsame]

end Job

/-- The node of `helpline` that asks the caller to dial. -/
def helplineGather : Gather where
  input := .dtmf
  minDigits := 1
  maxDigits := 1
  timeout := 5
  finishOnKey := "#"
  entries := [
    ⟨some "1", some "Sales", none, none, none, none, none, none⟩,
    ⟨some "2", none, none, none, none, none, none, none⟩]

/-- Only the first of two entries has an edge. -/
def helpline : Job where
  diagram := {
    nodes := [
      .ofStep "ask" (.gather helplineGather),
      .ofStep "sales" (.forward ⟨some "1001", none, 30⟩)]
    edges := [⟨"e", "ask", "sales", some "Sales"⟩] }
  name := "Helpline"
  options := .default

theorem helpline_anchoredAt :
    helpline.diagram.AnchoredAt [] (.ofStep "ask" (.gather helplineGather)) helplineGather where
  nodes_eq := ⟨_, rfl⟩
  step_eq := rfl
  entries_ne := List.cons_ne_nil _ _
  no_menu := by simp [helpline, Node.ofStep]
  first := by simp

theorem helpline_options_lead :
    ∃ sales other, (helpline.extractMenu "2000" "default").options = [sales, other] ∧
      sales.destination = .bridge "1001" "localhost" ∧
      other.destination = .transfer "2000" "default" := by
  obtain ⟨hextension, -, hlead, -⟩ :=
    helpline.options_lead [] _ _ helpline_anchoredAt "2000" "default"
  generalize (helpline.extractMenu "2000" "default").options = options at hlead
  obtain _ | ⟨hsales, _ | ⟨hother, ⟨⟩⟩⟩ := hlead
  refine ⟨_, _, rfl, ?_, ?_⟩
  · rw [hsales.on ⟨"e", "ask", "sales", some "Sales"⟩ ⟨[], [], rfl, by decide, nofun⟩]
    exact (helpline.diagram.resolve_fits helpline.options "sales").decided 0 "sales" _ _ rfl rfl
      (.bridge rfl)
  · rw [(hother.back (by decide)).1, hextension]

/-- A menu on a full phone number answers inbound calls, and its way back does not lead there. -/
theorem public_menu_not_led_back_to :
    let m := helpline.menuFor (some (.forDestination "+15551234567"))
    (m.extension = "+15551234567" ∧ m.context = "public") ∧
    (∀ e ∈ helplineGather.entries[1]?, ∀ edge ∈ helpline.diagram.edges, ¬ e.Takes "ask" edge) ∧
    ∃ o, m.options[1]? = some o ∧ o.destination = .transfer m.extension "default" ∧
      o.destination ≠ .transfer m.extension m.context := by
  intro m
  have hcontext : m.context = "public" := by decide
  have hnone : ∀ e ∈ helplineGather.entries[1]?, ∀ edge ∈ helpline.diagram.edges,
      ¬ e.Takes "ask" edge := by decide
  refine ⟨⟨rfl, hcontext⟩, hnone, _,
    Job.getElem?_options_of_anchoredAt helpline_anchoredAt m.extension m.context rfl, ?_⟩
  obtain ⟨hback, hfound⟩ := (MenuEntry.leads_gatherOption helpline (m := m) 2).back (hnone _ rfl)
  refine ⟨hback, fun heq => ?_⟩
  have hdefault := hfound.mp heq
  rw [hcontext] at hdefault
  exact absurd hdefault (by decide)

end Switchboard
