import Switchboard.Flow.Exits
import Switchboard.Options

/-!
# Switchboard.Flow.Cloud

The state machine of the cloud call engine: its actions, how each step becomes one, and its JSON
form. Times are in seconds. The initial state comes first.
-/

namespace Switchboard

inductive CloudAction where
  | say (text : String) (voice language : Option String)
  | play (file : String)
  | gather (timeout : Nat) (finishOnKey : String) (numDigits : Nat) (input : InputMode)
  | connect (timeout : Nat) (number callerId : Option String)
  | hangUp (reason : String)
  | record (maxLength : Nat) (finishOnKey : String) (beep : Option Bool)
      (callback callbackMethod : Option String)
  | sendMessage (number callerId body : Option String)
deriving DecidableEq, Repr

namespace CloudAction

def kind : CloudAction → ActionKind
  | .say .. | .play .. => .sayPlay
  | .gather .. => .gather
  | .connect .. => .connect
  | .hangUp .. => .hangUp
  | .record .. => .recordVoice
  | .sendMessage .. => .sendMessage

def inputName : InputMode → String
  | .dtmf => "dtmf"
  | .speech => "speech"

def toJson (a : CloudAction) : Json :=
  let text (s : String) : Option Json := some (.string s)
  let text? (s : Option String) : Option Json := s.map .string
  let count (n : Nat) : Option Json := some (.nat n)
  .object (presentMembers (match a with
    | .say s voice language =>
      [("say", text s), ("voice", text? voice), ("language", text? language)]
    | .play file => [("play", text file)]
    | .gather timeout key digits input =>
      [("timeout", count timeout), ("finish_on_key", text key), ("num_digits", count digits),
        ("input", text (inputName input))]
    | .connect timeout number callerId =>
      [("timeout", count timeout), ("to", text? number), ("from", text? callerId)]
    | .hangUp reason => [("reason", text reason)]
    | .record length key beep callback method =>
      [("max_length", count length), ("finish_on_key", text key), ("play_beep", beep.map .bool),
        ("recording_status_callback", text? callback),
        ("recording_status_callback_method", text? method)]
    | .sendMessage number callerId body =>
      [("to", text? number), ("from", text? callerId), ("body", text? body)]))

instance : Action CloudAction where
  kind := kind
  toJson := toJson

end CloudAction

/-- The voice to speak with: the requested one, unless it is only a generic name of the editor. -/
def Options.voice (o : Options) (requested : Option String) : String :=
  match requested with
  | some v => if v ∈ ["default", "male", "female", "neutral"] then o.defaultVoice else v
  | none => o.defaultVoice

/-- The cloud action of a step. A step without an action of its own says the tag of its node. -/
def Step.cloudAction (o : Options) (tag : String) : Step → CloudAction
  | .answer => .say "Welcome!" (o.voice none) defaultLanguage
  | .play p =>
    match p.message with
    | .speech text => .say text (o.voice p.voice) p.language
    | .audio file => .play file
    | .silence => .say "Processing..." (o.voice none) none
  | .gather g => .gather g.timeout g.finishOnKey g.maxDigits g.input
  | .forward f => .connect f.timeout f.phoneNumber (f.callerId.or o.callerId)
  | .hangUp reason => .hangUp reason
  | .record r =>
    let callback := o.recordingCallback?
    let beep := match r.mode with
      | .call => none
      | .voicemail => some r.beep
    .record r.maxDuration r.finishOnKey beep callback (callback.map fun _ => "POST")
  | .sms s => .sendMessage s.phoneNumber o.callerId s.message
  | .menu _ | .other _ => .say ("Executing " ++ tag) (o.voice none) none

def Node.cloudAction (o : Options) (n : Node) : CloudAction := n.step.cloudAction o n.tag

structure CloudFlow where
  description : String
  states : States CloudAction
  initialState : String
  allowConcurrentCalls : Bool

namespace CloudFlow

def initial? (f : CloudFlow) : Option (State CloudAction) := f.states.get? f.initialState

def toJson (f : CloudFlow) : Json :=
  .object [
    ("description", .string f.description),
    ("states", f.states.toJson),
    ("initial_state", .string f.initialState),
    ("flags", .object [("allow_concurrent_calls", .bool f.allowConcurrentCalls)])]

/-- The ids to make states of: the start, then the other ids in the order of the nodes. -/
def order (d : Diagram) (start : String) : List String :=
  start :: d.ids.filter (· ≠ start)

def ofIndex (o : Options) (g : Index) : Except CompileError CloudFlow :=
  match g.startId with
  | .error e => .error e
  | .ok start => .ok {
      description := o.description
      states := g.states (·.cloudAction o) (order g.diagram start)
      initialState := start
      allowConcurrentCalls := false }

end CloudFlow
end Switchboard
