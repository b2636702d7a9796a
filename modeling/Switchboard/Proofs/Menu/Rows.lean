import Std.Data.String.ToNat
import Switchboard.Proofs.Job.MenuRows
import Switchboard.Proofs.Menu.Way
import Switchboard.Proofs.Number.Text

/-!
# Switchboard.Proofs.Menu.Rows

The rows of a menu keep all of it but its origin. Every column is text, and each can be read back:
numbers from their digits, flags from the two words, and destinations by `Destination.read`, as long
as they are canonical; only an exit action with an empty text would pass for a missing one.
`Menu.Legible` says so much of a menu, and `Menu.rows_eq_iff` that its rows then determine it.

Extraction gives such menus: a menu node because its destinations are read in the first place
(`Menu.legible_ofSettings`), a gather node if no extension has a blank in it and the domain no `@`
(`Job.legible_of_anchoredAt`).
-/

namespace Switchboard

/-- The destinations can be read back from the rows. -/
structure Menu.Legible (m : Menu) : Prop where
  options : ∀ o ∈ m.options, o.destination.Canonical
  exitAction : ∀ dest, m.exitAction = some dest → dest.Canonical ∧ dest ≠ .custom ""

/-! ## Columns -/

theorem flagText_inj {b c : Bool} : flagText b = flagText c ↔ b = c := by
  cases b <;> cases c <;> decide

namespace Destination

theorem Canonical.text_inj {d e : Destination} (hd : d.Canonical) (he : e.Canonical)
    (h : d.text = e.text) : d = e := by
  rw [← hd.read_text, h, he.read_text]

theorem Canonical.text_ne_empty {d : Destination} (hd : d.Canonical) (hne : d ≠ .custom "") :
    d.text ≠ "" :=
  fun h => hne (hd.text_inj (canonical_read "") (h.trans (text_read "").symm))

end Destination

theorem MenuOption.row_inj {o o' : MenuOption} (ho : o.destination.Canonical)
    (ho' : o'.destination.Canonical) (h : o.row = o'.row) : o = o' := by
  obtain ⟨digit, destination, order, description, enabled⟩ := o
  obtain ⟨digit', destination', order', description', enabled'⟩ := o'
  simp only [row, OptionRow.mk.injEq] at h
  obtain ⟨rfl, hdestination, horder, rfl, henabled⟩ := h
  obtain rfl := ho.text_inj ho' hdestination
  obtain rfl := Nat.repr_inj.mp horder
  obtain rfl := flagText_inj.mp henabled
  rfl

theorem MenuOption.map_row_inj {os os' : List MenuOption} (hos : ∀ o ∈ os, o.destination.Canonical)
    (hos' : ∀ o ∈ os', o.destination.Canonical) (h : os.map (·.row) = os'.map (·.row)) :
    os = os' := by
  induction os generalizing os' with
  | nil => exact (List.map_eq_nil_iff.mp h.symm).symm
  | cons o os ih =>
    obtain ⟨o', os', rfl, hrow, hrows⟩ := List.map_eq_cons_iff.mp h.symm
    obtain ⟨ho, hos⟩ := List.forall_mem_cons.mp hos
    obtain ⟨ho', hos'⟩ := List.forall_mem_cons.mp hos'
    rw [row_inj ho ho' hrow.symm, ih hos hos' hrows.symm]

namespace Menu

/-- The column of the exit action is empty just if there is none. -/
theorem Legible.exitAction_inj {m m' : Menu} (hm : m.Legible) (hm' : m'.Legible)
    (h : (m.exitAction.map (·.text)).getD "" = (m'.exitAction.map (·.text)).getD "") :
    m.exitAction = m'.exitAction := by
  have hne {m : Menu} (hm : m.Legible) {dest : Destination} (hdest : m.exitAction = some dest) :
      dest.text ≠ "" :=
    (hm.exitAction dest hdest).1.text_ne_empty (hm.exitAction dest hdest).2
  cases he : m.exitAction with
  | none =>
    cases he' : m'.exitAction with
    | none => rfl
    | some dest' =>
      rw [he, he'] at h
      exact absurd h.symm (hne hm' he')
  | some dest =>
    cases he' : m'.exitAction with
    | none =>
      rw [he, he'] at h
      exact absurd h (hne hm he)
    | some dest' =>
      rw [he, he'] at h
      rw [(hm.exitAction dest he).1.text_inj (hm'.exitAction dest' he').1 h]

/-- The rows are the name and all of the menu but its origin. -/
theorem rows_eq_iff {m m' : Menu} (hm : m.Legible) (hm' : m'.Legible) {name name' : String} :
    m.rows name = m'.rows name' ↔ name = name' ∧ m' = { m with origin := m'.origin } := by
  constructor
  · intro h
    have hexit : (m.rows name).menu.exitAction = (m'.rows name').menu.exitAction := by rw [h]
    have hexitAction := hm.exitAction_inj hm' hexit
    have hoptions : m.options = m'.options :=
      MenuOption.map_row_inj hm.options hm'.options (MenuRows.mk.inj h).2
    have hmenu := (MenuRows.mk.inj h).1
    simp only [MenuRow.mk.injEq, Nat.repr_inj, flagText_inj] at hmenu
    cases m
    cases m'
    simp_all
  · rintro ⟨rfl, h⟩
    rw [h]
    rfl

end Menu

/-! ## Menus of menu nodes -/

theorem Bag.text?_ne_empty (bag : Bag) (name : String) : bag.text? name ≠ some "" := by
  unfold text?
  split
  · split
    · exact nofun
    · rename_i s _ hs
      simpa using hs
  · rename_i n _
    simpa using n.text_ne_empty
  · split <;> decide
  · exact nofun

namespace Menu

theorem legible_ofSettings (id : String) (bag : Bag) (name extension context : String) :
    (ofSettings id (.ofBag bag) name extension context).Legible where
  options := by
    intro o ho
    obtain ⟨i, hi, rfl⟩ := List.mem_mapIdx.mp ho
    exact Destination.canonical_read _
  exitAction := by
    intro dest hdest
    obtain ⟨t, ht, rfl⟩ := Option.map_eq_some_iff.mp hdest
    refine ⟨Destination.canonical_read t, fun hcustom => ?_⟩
    have hempty : t = "" := by rw [← Destination.text_read t, hcustom, Destination.text]
    exact bag.text?_ne_empty "exitAction" (hempty ▸ ht)

end Menu

/-! ## Menus of gather nodes -/

/-- The text of the extension that a step transfers to, where a property gives it as a text. -/
def Step.extensionText? : Step → Option String
  | .menu s => s.extension
  | .other bag =>
    match bag.get? "extension" with
    | some (.string extension) => some extension
    | _ => none
  | _ => none

theorem Step.Decides.canonical {o : Options} {s : Step} {dest : Destination}
    (h : s.Decides o dest) (hdomain : '@' ∉ o.pbxDomain.toList)
    (hextension : ∀ extension, s.extensionText? = some extension → ' ' ∉ extension.toList) :
    dest.Canonical := by
  have hcontext : ' ' ∉ "default".toList := by decide
  cases h with
  | bridge hn => exact hdomain
  | hangUp => exact trivial
  | menu he => exact ⟨hextension _ he, hcontext⟩
  | text he hne => exact ⟨hextension _ (by rw [extensionText?, he]), hcontext⟩
  | number hn => exact ⟨Number.blank_not_mem_text _, hcontext⟩

theorem MenuEntry.destination_gatherOption (e : MenuEntry) (g : Index) (o : Options)
    (id extension : String) (position : Nat) :
    (e.gatherOption g o id extension position).destination =
      ((e.edge? (g.outgoing id)).map fun edge => (g.resolve o edge.target).destination).getD
        (.transfer extension menuContext) := by
  rw [gatherOption]
  cases e.edge? (g.outgoing id) <;> rfl

/-- No extension that a menu on `extension` may transfer to has a blank in it, and the domain of the
users has no `@`. -/
structure Job.PlainlyRouted (j : Job) (extension : String) : Prop where
  menu : ' ' ∉ extension.toList
  default : ' ' ∉ j.options.defaultExtension.toList
  property : ∀ n ∈ j.diagram.nodes, ∀ e, n.step.extensionText? = some e → ' ' ∉ e.toList
  domain : '@' ∉ j.options.pbxDomain.toList

theorem Job.legible_of_anchoredAt {j : Job} {before : List Node} {n : Node} {g : Gather}
    (h : j.diagram.AnchoredAt before n g) {extension : String} (hplain : j.PlainlyRouted extension)
    (context : String) : (j.extractMenu extension context).Legible := by
  have hcontext : ' ' ∉ menuContext.toList := by decide
  rw [extractMenu_of_anchoredAt h]
  constructor
  · intro o ho
    obtain ⟨i, hi, rfl⟩ := List.mem_mapIdx.mp ho
    rw [MenuEntry.destination_gatherOption]
    cases g.entries[i].edge? (j.diagram.index.outgoing n.id) with
    | none => exact ⟨hplain.menu, hcontext⟩
    | some edge =>
      obtain ⟨m, hm, hdecides⟩ | hlast :=
        j.diagram.resolve_decides_or_lastResort j.options edge.target
      · exact hdecides.canonical hplain.domain (hplain.property m hm)
      · rw [Option.map_some, Option.getD_some, hlast]
        exact ⟨hplain.default, hcontext⟩
  · intro dest hdest
    cases hdest
    exact ⟨⟨by decide, hcontext⟩, by decide⟩

/-- The rows of a menu determine the menu but for its origin, and the name that it has in them, if
its destinations can be read back. Those of a menu node that was read from properties always can,
and those of a gather node can if no extension has a blank in it and the domain no `@`. -/
theorem Menu.rows_determine :
    (∀ (m m' : Menu) (name name' : String), m.Legible → m'.Legible →
      (m.rows name = m'.rows name' ↔ name = name' ∧ m' = { m with origin := m'.origin })) ∧
    (∀ (j : Job) (id : String) (bag : Bag) (extension context : String),
      j.diagram.ReadsMenu id bag → (j.extractMenu extension context).Legible) ∧
    (∀ (j : Job) (before : List Node) (n : Node) (g : Gather) (extension context : String),
      j.diagram.AnchoredAt before n g → j.PlainlyRouted extension →
        (j.extractMenu extension context).Legible) := by
  refine ⟨fun m m' name name' hm hm' => rows_eq_iff hm hm', ?_, ?_⟩
  · intro j id bag extension context h
    rw [Job.extractMenu_eq, h.anchor_eq]
    exact legible_ofSettings id bag j.name extension context
  · intro j before n g extension context h hplain
    exact j.legible_of_anchoredAt h hplain context

example : { Menu.ofDefaults "Desk" "1000" "default" with exitAction := none }.rows "Desk" =
    { Menu.ofDefaults "Desk" "1000" "default" with exitAction := some (.custom "") }.rows "Desk" :=
  rfl

/-- One digit leads to a queue whose extension is a number, the other has no edge. -/
def kiosk : Job where
  diagram := {
    nodes := [
      .ofBag "ask" "gather-input" [("menuOptions", .array [
        .object [("key", .string "1"), ("label", .string "Queue")],
        .object [("key", .string "2"), ("label", .string "Again")]])],
      .ofBag "queue" "call-queue" [("extension", .nat 7000)]]
    edges := [⟨"e1", "ask", "queue", some "Queue"⟩] }
  name := "Kiosk"
  options := .default

theorem kiosk_anchoredAt : ∃ n g, kiosk.diagram.AnchoredAt [] n g := by
  refine ⟨_, _, ⟨_, rfl⟩, rfl, List.cons_ne_nil _ _, ?_, fun m hm => absurd hm List.not_mem_nil⟩
  intro m hm s
  obtain rfl | rfl : m = _ ∨ m = _ := by simpa [kiosk] using hm
  all_goals exact nofun

theorem kiosk_plainlyRouted : kiosk.PlainlyRouted "2000" where
  menu := by decide
  default := by decide
  property := by
    intro m hm e he
    obtain rfl | rfl : m = _ ∨ m = _ := by simpa [kiosk] using hm
    all_goals exact nomatch (show none = some e from he)
  domain := by decide

/-- A menu node that asks for the same options. -/
def panelBag : Bag := [
  ("exitAction", .string "menu-exec-app:transfer 0 XML default"),
  ("menuOptions", .array [
    .object [("key", .string "1"), ("label", .string "Queue"),
      ("destination", .string "menu-exec-app:transfer 7000 XML default")],
    .object [("key", .string "2"), ("label", .string "Again"),
      ("destination", .string "menu-exec-app:transfer 2000 XML default")]])]

def panel : Job where
  diagram := ⟨[.ofBag "panel" "ivr-menu" panelBag], []⟩
  name := "Panel"
  options := .default

/-- The two menus wait for different times, so they have different rows under all names. -/
theorem kiosk_rows_determine :
    panel.diagram.ReadsMenu "panel" panelBag ∧
    (∃ n g, kiosk.diagram.AnchoredAt [] n g) ∧ kiosk.PlainlyRouted "2000" ∧
    (panel.extractMenu "2000" "default").Legible ∧
    (kiosk.extractMenu "2000" "default").Legible ∧
    ∀ name name', (panel.extractMenu "2000" "default").rows name ≠
      (kiosk.extractMenu "2000" "default").rows name' := by
  obtain ⟨hrows, hmenuNode, hgatherNode⟩ := Menu.rows_determine
  have hreads : panel.diagram.ReadsMenu "panel" panelBag :=
    ⟨[], [], none, rfl, fun m hm => absurd hm List.not_mem_nil⟩
  obtain ⟨n, g, hanchor⟩ := kiosk_anchoredAt
  have hpanel := hmenuNode panel "panel" panelBag "2000" "default" hreads
  have hkiosk := hgatherNode kiosk [] n g "2000" "default" hanchor kiosk_plainlyRouted
  refine ⟨hreads, ⟨n, g, hanchor⟩, kiosk_plainlyRouted, hpanel, hkiosk, fun name name' h => ?_⟩
  have hmenu := ((hrows _ _ name name' hpanel hkiosk).mp h).2
  have htimeout : (kiosk.extractMenu "2000" "default").timeout =
      (panel.extractMenu "2000" "default").timeout := by rw [hmenu]
  have hwaits : (kiosk.extractMenu "2000" "default").timeout = 5000 := rfl
  have hwaits' : (panel.extractMenu "2000" "default").timeout = 3000 := rfl
  rw [hwaits, hwaits'] at htimeout
  exact absurd htimeout (by decide)

end Switchboard
