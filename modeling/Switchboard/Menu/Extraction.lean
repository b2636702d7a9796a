import Switchboard.Flow.Pbx
import Switchboard.Menu.Basic
import Switchboard.Menu.Resolution

/-!
# Switchboard.Menu.Extraction

The digit menu of a diagram. The first menu node is the menu, word for word; without one, the first
gather node with menu entries is its anchor, and the edges of that node say where the digits lead;
without either there is only a menu of defaults. Extraction always gives a menu.

The positions of entries count from one and have no bound here; 32 bits hold them for a menu of fewer
than 2 ^ 32 entries.
-/

namespace Switchboard

/-- The part of a diagram that its menu is read from. -/
inductive Anchor where
  | menu (id : String) (settings : MenuSettings)
  | gather (id : String) (gather : Gather)
  | none

def Anchor.origin : Anchor → Origin
  | .menu id _ => .menuNode id
  | .gather id _ => .gatherNode id
  | .none => .none

namespace Diagram

def menuNode? (d : Diagram) : Option (String × MenuSettings) :=
  d.nodes.findSome? fun n =>
    match n.step with
    | .menu s => some (n.id, s)
    | _ => none

def gatherNode? (d : Diagram) : Option (String × Gather) :=
  d.nodes.findSome? fun n =>
    match n.step with
    | .gather g => if g.entries.isEmpty then none else some (n.id, g)
    | _ => none

def anchor (d : Diagram) : Anchor :=
  match d.menuNode? with
  | some (id, s) => .menu id s
  | none =>
    match d.gatherNode? with
    | some (id, g) => .gather id g
    | none => .none

end Diagram

/-! ## Defaults -/

def defaultGreeting : String := "Welcome!"

def shortGreetingLength : Nat := 100

/-- In milliseconds. -/
def defaultMenuTimeout : Nat := 3000

def defaultRingBack : String := "tone_stream://%(500,500,480,620);loops=25"

def defaultExitAction : Destination := .transfer "0" menuContext

def defaultMenuDescription (name : String) : String := "IVR Menu: " ++ name

/-! ## Greetings -/

/-- The long and the short greeting that a node speaks, if it is one that greets. Of the play nodes
only those with the tag `play-audio-tts` do; an empty greeting stands for none. -/
def Node.greeting? (n : Node) : Option (String × String) :=
  match n.step with
  | .answer => some ("Welcome to our IVR system!", "Welcome!")
  | .play p =>
    if n.tag = "play-audio-tts" then
      match p.message with
      | .speech text => some (text, String.ofList (text.toList.take shortGreetingLength))
      | .audio file => some (file, file)
      | .silence => some ("", "")
    else none
  | _ => none

def greetingOrDefault (s : String) : String := if s.isEmpty then defaultGreeting else s

/-- The greetings of a menu: those of the first node that greets on the path from the start to the
menu's anchor. -/
def Index.greetings (g : Index) (anchorId : String) : String × String :=
  let path := match g.start? with
    | some start => g.path start.id anchorId
    | none => []
  let (long, short) := ((path.filterMap g.node?).findSome? Node.greeting?).getD ("", "")
  (greetingOrDefault long, greetingOrDefault short)

/-! ## Options -/

namespace MenuEntry

def explicitOption (e : MenuEntry) (position : Nat) : MenuOption where
  digit := (e.option.or e.key).getD position.repr
  destination := .read ((e.destination.or e.value).getD "")
  order := e.order.getD position
  description := (e.description.or e.label).getD ("Option " ++ e.option.getD position.repr)
  enabled := e.enabled.getD true

def gatherDigit (e : MenuEntry) (position : Nat) : String := e.key.getD position.repr

def edge? (e : MenuEntry) (edges : List Edge) : Option Edge :=
  edges.find? fun edge =>
    match edge.label with
    | some label => e.matchesLabel label
    | none => false

/-- The option of a gather node's entry: where its edge leads, or back to the menu. -/
def gatherOption (e : MenuEntry) (g : Index) (o : Options) (nodeId extension : String)
    (position : Nat) : MenuOption where
  digit := e.gatherDigit position
  destination :=
    match e.edge? (g.outgoing nodeId) with
    | some edge => (g.resolve o edge.target).destination
    | none => .transfer extension menuContext
  order := position
  description := e.label.getD ("Option " ++ e.gatherDigit position)
  enabled := true

end MenuEntry

/-! ## Menus -/

namespace Menu

def ofSettings (id : String) (s : MenuSettings) (name extension context : String) : Menu where
  origin := .menuNode id
  extension := s.extension.getD extension
  context := s.context.getD context
  greetLong := s.greetLong.getD ""
  greetShort := s.greetShort.getD ""
  timeout := s.timeout.getD defaultMenuTimeout
  exitAction := s.exitAction.map .read
  directDial := s.directDial.getD false
  ringBack := s.ringBack.getD ""
  callerIdNamePrefix := s.callerIdNamePrefix.getD ""
  enabled := s.enabled.getD true
  description := s.description.getD (defaultMenuDescription name)
  options := s.entries.mapIdx fun i e => e.explicitOption (i + 1)

def ofDefaults (name extension context : String) : Menu where
  origin := .none
  extension := extension
  context := context
  greetLong := defaultGreeting
  greetShort := defaultGreeting
  timeout := defaultMenuTimeout
  exitAction := some defaultExitAction
  directDial := false
  ringBack := defaultRingBack
  callerIdNamePrefix := ""
  enabled := true
  description := defaultMenuDescription name
  options := []

def ofGather (g : Index) (o : Options) (id : String) (gather : Gather)
    (name extension context : String) : Menu :=
  { ofDefaults name extension context with
    origin := .gatherNode id
    greetLong := (g.greetings id).1
    greetShort := (g.greetings id).2
    timeout := toMilliseconds gather.timeout
    options := gather.entries.mapIdx fun i e => e.gatherOption g o id extension (i + 1) }

def extract (g : Index) (o : Options) (name extension context : String) : Menu :=
  match g.diagram.anchor with
  | .menu id s => ofSettings id s name extension context
  | .gather id gather => ofGather g o id gather name extension context
  | .none => ofDefaults name extension context

end Menu
end Switchboard
