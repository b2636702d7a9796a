import Switchboard.Flow.Pbx
import Switchboard.Uuid.Basic

/-!
# Switchboard.Dialplan.Basic

The dialplan of one extension: the applications that the PBX runs one after another. A flow is
flattened into it, state by state; where its transitions lead is not part of a dialplan.
-/

namespace Switchboard

inductive Line where
  | application (name : String) (data : Option String)
  | comment (text : String)
deriving DecidableEq, Repr

structure Dialplan where
  context : String
  name : String
  number : String
  uuid : Uuid
  lines : List Line
deriving DecidableEq, Repr

/-- Where recordings are kept, as a template of the PBX. -/
def recordingPath : String :=
  "/var/lib/freeswitch/recordings/$\x7buuid\x7d_$\x7bstrftime(%Y%m%d_%H%M%S)\x7d.wav"

/-- The line of an action. Without a number there is nobody to connect to. -/
def Line.ofAction (domain : String) : PbxAction → Line
  | .say text => .application "speak" (some ("flite|kal|" ++ text))
  | .play file => .application "playback" (some file)
  | .gather timeout key least most =>
    .application "play_and_get_digits" (some (least.repr ++ " " ++ most.repr ++ " 3 " ++
      timeout.repr ++ " " ++ key ++
      " silence_stream://1000 silence_stream://1000 gathered_digits"))
  | .record length _ _ =>
    .application "record" (some (recordingPath ++ " " ++ length.repr ++ " 200 5"))
  | .connect (some number) =>
    .application "bridge" (some ("user/" ++ number ++ "@" ++ domain))
  | .connect none => .comment "connect without a destination number"
  | .sendMessage number body =>
    .application "sms" (some (number.getD "" ++ "|" ++ body.getD ""))
  | .hangUp _ => .application "hangup" none

namespace Dialplan

def uuidName (context name number : String) : String :=
  "callflow:" ++ context ++ ":" ++ name ++ ":" ++ number

/-- Answers, waits a second, runs every state in order and hangs up. -/
def ofFlow (f : PbxFlow) (name domain : String) : Dialplan where
  context := f.context
  name := name
  number := f.extension
  uuid := .ofName .oidNamespace (uuidName f.context name f.extension)
  lines :=
    [.application "answer" none, .application "sleep" (some "1000")] ++
      f.states.values.map (fun s => .ofAction domain s.action) ++
      [.application "hangup" none]

end Dialplan
end Switchboard
