import Switchboard.Flow.Exits
import Switchboard.Options
import Switchboard.Routing

/-!
# Switchboard.Flow.Pbx

The state machine of the PBX, from which its dialplan is made: the actions, how each step becomes
one, and the JSON form. Times are in milliseconds. States keep the order of the nodes.
-/

namespace Switchboard

inductive PbxAction where
  | say (text : String)
  | play (file : String)
  | gather (timeout : Nat) (finishOnKey : String) (minDigits maxDigits : Nat)
  | connect (number : Option String)
  | hangUp (reason : String)
  | record (maxLength : Nat) (finishOnKey : String) (beep : Bool)
  | sendMessage (number body : Option String)
deriving DecidableEq, Repr

namespace PbxAction

def kind : PbxAction → ActionKind
  | .say .. | .play .. => .sayPlay
  | .gather .. => .gather
  | .connect .. => .connect
  | .hangUp .. => .hangUp
  | .record .. => .recordVoice
  | .sendMessage .. => .sendMessage

def toJson (a : PbxAction) : Json :=
  let text (s : String) : Option Json := some (.string s)
  let text? (s : Option String) : Option Json := s.map .string
  let count (n : Nat) : Option Json := some (.nat n)
  .object (presentMembers (match a with
    | .say s => [("say", text s)]
    | .play file => [("play", text file)]
    | .gather timeout key least most =>
      [("timeout", count timeout), ("finish_on_key", text key), ("min_digits", count least),
        ("max_digits", count most)]
    | .connect number => [("to", text? number)]
    | .hangUp reason => [("reason", text reason)]
    | .record length key beep =>
      [("max_length", count length), ("finish_on_key", text key), ("play_beep", some (.bool beep))]
    | .sendMessage number body => [("to", text? number), ("body", text? body)]))

instance : Action PbxAction where
  kind := kind
  toJson := toJson

end PbxAction

def toMilliseconds (seconds : Nat) : Nat := min (1000 * seconds) maxCount

/-- The PBX action of a step. A step without an action of its own says the tag of its node. -/
def Step.pbxAction (tag : String) : Step → PbxAction
  | .answer => .say "Welcome to our IVR system!"
  | .play p =>
    match p.message with
    | .speech text => .say text
    | .audio file => .play file
    | .silence => .say "Processing..."
  | .gather g =>
    .gather (toMilliseconds g.timeout) g.finishOnKey (min g.minDigits g.maxDigits) g.maxDigits
  | .forward f => .connect f.phoneNumber
  | .hangUp reason => .hangUp reason
  | .record r => .record r.maxDuration r.finishOnKey r.beep
  | .sms s => .sendMessage s.phoneNumber s.message
  | .menu _ | .other _ => .say ("Processing " ++ tag)

def Node.pbxAction (n : Node) : PbxAction := n.step.pbxAction n.tag

structure PbxFlow where
  description : String
  extension : String
  context : String
  states : States PbxAction
  initialState : String

namespace PbxFlow

def initial? (f : PbxFlow) : Option (State PbxAction) := f.states.get? f.initialState

def toJson (f : PbxFlow) : Json :=
  .object [
    ("description", .string f.description),
    ("extension", .string f.extension),
    ("context", .string f.context),
    ("states", f.states.toJson),
    ("initial_state", .string f.initialState)]

end PbxFlow

/-- The routing to use: without one, the default extension among the internal ones. -/
def Options.routing (o : Options) (r : Option Routing) : Routing :=
  r.getD ⟨o.defaultExtension, .internal⟩

def PbxFlow.ofIndex (o : Options) (r : Option Routing) (g : Index) :
    Except CompileError PbxFlow :=
  match g.startId with
  | .error e => .error e
  | .ok start => .ok {
      description := o.description
      extension := (o.routing r).destination
      context := (o.routing r).context.name
      states := g.states (·.pbxAction) g.diagram.ids
      initialState := start }

end Switchboard
