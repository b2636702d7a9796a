import Switchboard.Diagram.Payload
import Switchboard.Job
import Switchboard.Text.Quoted

/-!
# Switchboard.Event

What there is to report about a compilation, in the order in which it happens. Events are values:
each function here says what the function of the same purpose elsewhere reports while it works.
-/

namespace Switchboard

inductive Level where
  | warn
  | info
  | debug
deriving DecidableEq, Repr

def Level.name : Level → String
  | .warn => "WARN"
  | .info => "INFO"
  | .debug => "DEBUG"

inductive Event where
  | entriesIgnored (node : String) (fault : EntryFault)
  | compiling (name : String) (target : Target)
  | stateMade (node tag : String) (kind : ActionKind)
  | cloudFlowCompiled (name : String) (states : Nat) (initialState : String)
  | pbxFlowCompiled (name : String) (states : Nat) (extension context : String)
  | menuNodeUsed (node : String)
  | gatherNodeUsed (node : String) (options : Nat)
  | noMenu
  | optionWithoutEdge (node digit : String)
  | circle (node : String)
  | menuExtracted (name : String) (origin : Origin) (options : Nat)
  | dialplanInstead (name : String)
deriving DecidableEq, Repr

def Target.reportName : Target → String
  | .cloud => "Cloud"
  | .dialplan => "PbxDialplan"
  | .menu => "PbxMenu"
  | .auto => "PbxAuto"

def Origin.reportName : Origin → String
  | .menuNode id => "ExplicitNode(" ++ Text.quoted id ++ ")"
  | .gatherNode id => "GatherInput(" ++ Text.quoted id ++ ")"
  | .none => "None"

namespace Event

def level : Event → Level
  | entriesIgnored .. | circle .. => .warn
  | cloudFlowCompiled .. | pbxFlowCompiled .. | menuExtracted .. => .info
  | _ => .debug

def message : Event → String
  | entriesIgnored _ (.notArray _) => "menuOptions is not a JSON array, ignoring it"
  | entriesIgnored _ (.unreadable _) => "Failed to parse menuOptions as JSON"
  | compiling .. => "Compiling"
  | stateMade .. => "Translated node"
  | cloudFlowCompiled .. => "Compiled cloud flow"
  | pbxFlowCompiled .. => "Compiled PBX flow"
  | menuNodeUsed _ => "Using explicit ivr-menu node"
  | gatherNodeUsed .. => "Using gather-input node as menu anchor"
  | noMenu => "No menu pattern found"
  | optionWithoutEdge .. => "No edge for menu option, routing back to the menu"
  | circle _ => "Cycle while resolving menu destination"
  | menuExtracted .. => "Extracted IVR menu"
  | dialplanInstead _ => "No menu pattern, falling back to dialplan"

def fields : Event → List (String × Json)
  | entriesIgnored node (.notArray type) => [("node_id", .string node), ("found", .string type)]
  | entriesIgnored node (.unreadable text) => [("node_id", .string node), ("raw", .string text)]
  | compiling name target => [("name", .string name), ("target", .string target.reportName)]
  | stateMade node tag kind =>
    [("node_id", .string node), ("node_type", .string tag), ("kind", .string kind.name)]
  | cloudFlowCompiled name states initial =>
    [("name", .string name), ("states", .nat states), ("initial_state", .string initial)]
  | pbxFlowCompiled name states extension context =>
    [("name", .string name), ("states", .nat states), ("extension", .string extension),
      ("context", .string context)]
  | menuNodeUsed node => [("node_id", .string node)]
  | gatherNodeUsed node options => [("node_id", .string node), ("options", .nat options)]
  | noMenu => []
  | optionWithoutEdge node digit => [("node_id", .string node), ("digit", .string digit)]
  | circle node => [("node_id", .string node)]
  | menuExtracted name origin options =>
    [("name", .string name), ("origin", .string origin.reportName), ("options", .nat options)]
  | dialplanInstead name => [("name", .string name)]

def toJson (e : Event) : Json :=
  .object (("level", .string e.level.name) :: ("message", .string e.message) :: e.fields)

end Event

/-! ## Reading nodes -/

/-- Reading a bag for a node reports a faulty list of menu entries, if the node may have one. -/
def Bag.events (id tag : String) (bag : Bag) : List Event :=
  match Family.ofTag tag with
  | .gather | .menu =>
    (MenuEntry.fault? (bag.get? "menuOptions")).toList.map (.entriesIgnored id)
  | _ => []

def Payload.events (p : Payload) : List Event :=
  p.nodes.flatMap fun n => n.effectiveBag.events n.id n.effectiveTag

/-! ## Flows -/

/-- Making the states of these ids reports a node for every id, as often as the id comes. -/
def Index.stateEvents {α : Type} [Action α] (g : Index) (action : Node → α)
    (ids : List String) : List Event :=
  (g.nodesOf ids).map fun n => .stateMade n.id n.tag (Action.kind (action n))

namespace Job

def cloudFlowEvents (j : Job) : List Event :=
  match j.cloudFlow with
  | .error _ => []
  | .ok f =>
    j.diagram.index.stateEvents (·.cloudAction j.options)
      (CloudFlow.order j.diagram f.initialState) ++
    [.cloudFlowCompiled j.name f.states.size f.initialState]

def pbxFlowEvents (j : Job) (r : Option Routing) : List Event :=
  match j.pbxFlow r with
  | .error _ => []
  | .ok f =>
    j.diagram.index.stateEvents (·.pbxAction) j.diagram.ids ++
    [.pbxFlowCompiled j.name f.states.size f.extension f.context]

end Job

/-! ## Menus -/

/-- Following a caller's way reports the circle in which it runs, if it does. -/
def Resolution.events (r : Resolution) : List Event := r.circle.toList.map .circle

/-- Making an option of a gather node reports a missing edge, or a way that runs in a circle. -/
def MenuEntry.gatherEvents (e : MenuEntry) (g : Index) (o : Options) (nodeId : String)
    (position : Nat) : List Event :=
  match e.edge? (g.outgoing nodeId) with
  | some edge => (g.resolve o edge.target).events
  | none => [.optionWithoutEdge nodeId (e.gatherDigit position)]

def Menu.extractionEvents (g : Index) (o : Options) : List Event :=
  match g.diagram.anchor with
  | .menu id _ => [.menuNodeUsed id]
  | .gather id gather =>
    .gatherNodeUsed id gather.entries.length ::
      (gather.entries.mapIdx fun i e => e.gatherEvents g o id (i + 1)).flatten
  | .none => [.noMenu]

namespace Job

def extractMenuEvents (j : Job) (extension context : String) : List Event :=
  let menu := j.extractMenu extension context
  Menu.extractionEvents j.diagram.index j.options ++
    [.menuExtracted j.name menu.origin menu.options.length]

def menuForEvents (j : Job) (r : Option Routing) : List Event :=
  j.extractMenuEvents (j.options.routing r).destination (j.options.routing r).context.name

def events (j : Job) (target : Target) (r : Option Routing) : List Event :=
  if j.diagram.isEmpty then []
  else
    .compiling j.name target ::
      match target with
      | .cloud => j.cloudFlowEvents
      | .dialplan => j.pbxFlowEvents r
      | .menu => j.menuForEvents r
      | .auto =>
        j.menuForEvents r ++
          if (j.menuFor r).isFound then [] else .dialplanInstead j.name :: j.pbxFlowEvents r

end Job
end Switchboard
