import Switchboard.Proofs.Job.Selection
import Switchboard.Proofs.Menu.Destination

/-!
# Switchboard.Proofs.Job.MenuRows

The properties of a menu node reach the PBX's tables word for word. `MenuRow.ofBag` and
`OptionRow.ofBag` say column by column which property goes where and what stands in for a missing
one, and `MenuRows.ofBag` has an option row for each item of `menuOptions`, in order. On the way
there every destination is read and written again; its text stays as it is, because writing undoes
reading (`Destination.text_read`).
-/

namespace Switchboard

/-! ## What the tables have to say -/

/-- The items that a `menuOptions` property lists: those of the array that it is, or of the one
that its text encodes. -/
def MenuEntry.itemsOf : Option Json → List Json
  | some (.array items) => items
  | some (.string s) =>
    if s.toList.all Text.isBlank then []
    else
      match Json.parse? s with
      | some (.array items) => items
      | _ => []
  | _ => []

def MenuEntry.bagOf : Json → Bag
  | .object members => members
  | _ => []

/-- The header row of a menu node with these properties, for a menu `name` on `route`. -/
def MenuRow.ofBag (bag : Bag) (name : String) (route : Routing) : MenuRow where
  name := name
  extension := (bag.text? "extension").getD route.destination
  context := (bag.text? "context").getD route.context.name
  greetLong := (bag.text? "greetLong").getD ""
  greetShort := (bag.text? "greetShort").getD ""
  timeout := ((bag.positive? "timeout").getD 3000).repr
  exitAction := (bag.text? "exitAction").getD ""
  directDial := flagText ((bag.flag? "directDial").getD false)
  ringBack := (bag.text? "ringBack").getD ""
  callerIdNamePrefix := (bag.text? "callerIdNamePrefix").getD ""
  enabled := flagText ((bag.flag? "enabled").getD true)
  description := (bag.text? "description").getD ("IVR Menu: " ++ name)

/-- The option row of an item with these properties; `position` counts from one. -/
def OptionRow.ofBag (bag : Bag) (position : Nat) : OptionRow where
  digits := ((bag.text? "option").or (bag.text? "key")).getD position.repr
  action := ((bag.text? "destination").or (bag.text? "value")).getD ""
  order := ((bag.count? "order").getD position).repr
  description := ((bag.text? "description").or (bag.text? "label")).getD
    ("Option " ++ (bag.text? "option").getD position.repr)
  enabled := flagText ((bag.flag? "enabled").getD true)

def MenuRows.ofBag (bag : Bag) (name : String) (route : Routing) : MenuRows where
  menu := .ofBag bag name route
  options := (MenuEntry.itemsOf (bag.get? "menuOptions")).mapIdx fun i item =>
    .ofBag (MenuEntry.bagOf item) (i + 1)

/-! ## What they say -/

namespace MenuEntry

theorem ofJson_eq (item : Json) : ofJson item = ofBag (bagOf item) := by
  cases item <;> rfl

theorem ofProperty_eq (v : Option Json) : ofProperty v = (itemsOf v).map ofJson := by
  fun_cases readAll v with
  | case1 items => rfl
  | case2 s hblank => simp [ofProperty, readAll, itemsOf, hblank]
  | case3 s hblank items hs => simp [ofProperty, readAll, itemsOf, hblank, hs]
  | case4 s hblank v hs hv =>
    cases v with
    | array items => exact absurd rfl (hs items)
    | _ => simp [ofProperty, readAll, itemsOf, hblank, hv]
  | case5 s hblank hs => simp [ofProperty, readAll, itemsOf, hblank, hs]
  | case6 v => simp_all [ofProperty, readAll, itemsOf]

theorem row_explicitOption (bag : Bag) (position : Nat) :
    ((ofBag bag).explicitOption position).row = .ofBag bag position := by
  rw [MenuOption.row, explicitOption, Destination.text_read]
  rfl

theorem rows_explicitOption (v : Option Json) :
    ((ofProperty v).mapIdx fun i e => e.explicitOption (i + 1)).map (·.row) =
      (itemsOf v).mapIdx fun i item => .ofBag (bagOf item) (i + 1) := by
  apply List.ext_getElem?
  intro i
  simp [ofProperty_eq, ofJson_eq, row_explicitOption, Function.comp_def]

end MenuEntry

namespace Menu

variable (id : String) (bag : Bag) (name extension context : String)

theorem exitAction_ofSettings :
    (ofSettings id (.ofBag bag) name extension context).exitAction.map (·.text) =
      bag.text? "exitAction" := by
  simp [ofSettings, MenuSettings.ofBag, Function.comp_def]

theorem rows_ofSettings (route : Routing) :
    (ofSettings id (.ofBag bag) name route.destination route.context.name).rows name =
      .ofBag bag name route := by
  rw [rows, exitAction_ofSettings, ofSettings, MenuSettings.ofBag, MenuRows.ofBag,
    ← MenuEntry.rows_explicitOption]
  rfl

end Menu

/-- The first menu node of the diagram has the id `id` and is read from the properties `bag`. -/
def Diagram.ReadsMenu (d : Diagram) (id : String) (bag : Bag) : Prop :=
  ∃ before after position,
    d.nodes = before ++ { Node.ofBag id "ivr-menu" bag with position := position } :: after ∧
      ∀ m ∈ before, ¬ m.IsMenu

theorem Diagram.ReadsMenu.anchor_eq {d : Diagram} {id : String} {bag : Bag}
    (h : d.ReadsMenu id bag) : d.anchor = .menu id (.ofBag bag) := by
  obtain ⟨before, after, position, hnodes, hfirst⟩ := h
  have hmenu : d.menuNode? = some (id, .ofBag bag) :=
    menuNode?_eq_some_iff.mpr ⟨before, _, after, hnodes, rfl, rfl,
      fun m hm s hs => hfirst m hm ⟨s, hs⟩⟩
  rw [anchor, hmenu]

/-- A diagram whose first menu node is read from properties compiles to the rows that these
properties ask for. -/
theorem Job.compile_menu_of_readsMenu {j : Job} {id : String} {bag : Bag}
    (h : j.diagram.ReadsMenu id bag) (r : Option Routing) :
    ∃ menu rows, j.compile .menu r = .ok (.menu menu rows) ∧ menu.origin = .menuNode id ∧
      rows = .ofBag bag j.name (r.getD ⟨j.options.defaultExtension, .internal⟩) ∧
      menu.exitAction.map (·.text) = bag.text? "exitAction" ∧
      ∀ t, (Destination.read t).text = t := by
  have hne : j.diagram.nodes ≠ [] := by
    obtain ⟨before, after, position, hnodes, -⟩ := h
    simp [hnodes]
  have hmenu : j.menuFor r = .ofSettings id (.ofBag bag) j.name (j.options.routing r).destination
      (j.options.routing r).context.name := by
    rw [menuFor, extractMenu_eq, h.anchor_eq]
  refine ⟨j.menuFor r, (j.menuFor r).rows j.name, compile_of_ne_nil hne .menu, ?_, ?_, ?_,
    Destination.text_read⟩
  · rw [hmenu, Menu.ofSettings]
  · rw [hmenu, Menu.rows_ofSettings, Options.routing]
  · rw [hmenu, Menu.exitAction_ofSettings]

/-- Properties as editors leave them: numbers, also as text, and an empty field. Of the entries, the
first has a number for a digit, two blanks in a row and no whole number for its order, and the third
has nothing at all. -/
def lobbyBag : Bag := [
  ("extension", .nat 5000),
  ("greetLong", .string ""),
  ("exitAction", .string "menu-exec-app:bridge user/a@b@c"),
  ("directDial", .string "true"),
  ("timeout", .string " 4500 "),
  ("menuOptions", .array [
    .object [("key", .nat 3), ("label", .string "Sales"),
      ("destination", .string "menu-exec-app:transfer  1001 XML default"),
      ("order", .string "2.5")],
    .object [("option", .string "9"), ("value", .string "menu-exec-app:hangup"),
      ("enabled", .bool false), ("order", .nat 20)],
    .null])]

def lobby : Job where
  diagram := {
    nodes := [.ofBag "hello" "answer-call" [], .ofBag "ivr" "ivr-menu" lobbyBag,
      .ofBag "spare" "ivr-menu" []]
    edges := [⟨"e1", "hello", "ivr", none⟩] }
  name := "Lobby"
  options := .default

def lobbyRows : MenuRows where
  menu := {
    name := "Lobby"
    extension := "5000"
    context := "public"
    greetLong := ""
    greetShort := ""
    timeout := "4500"
    exitAction := "menu-exec-app:bridge user/a@b@c"
    directDial := "true"
    ringBack := ""
    callerIdNamePrefix := ""
    enabled := "true"
    description := "IVR Menu: Lobby" }
  options := [
    ⟨"3", "menu-exec-app:transfer  1001 XML default", "3", "Sales", "true"⟩,
    ⟨"9", "menu-exec-app:hangup", "20", "Option 9", "false"⟩,
    ⟨"3", "", "3", "Option 3", "true"⟩]

theorem lobby_compile_menu :
    lobby.diagram.ReadsMenu "ivr" lobbyBag ∧
    ∃ menu, lobby.compile .menu (some (.forDestination "+15550100")) =
      .ok (.menu menu lobbyRows) := by
  have hreads : lobby.diagram.ReadsMenu "ivr" lobbyBag := by
    refine ⟨[.ofBag "hello" "answer-call" []], _, none, rfl, ?_⟩
    simp [Node.isMenu_ofBag_iff]
  have hrows : MenuRows.ofBag lobbyBag "Lobby" (.forDestination "+15550100") = lobbyRows := by
    decide
  obtain ⟨menu, rows, hcompile, -, rfl, -⟩ :=
    Job.compile_menu_of_readsMenu hreads (some (.forDestination "+15550100"))
  exact ⟨hreads, menu, hrows ▸ hcompile⟩

end Switchboard
