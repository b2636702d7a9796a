import Switchboard.Diagram.MenuEntry

/-!
# Switchboard.Diagram.Step

What a node of a call diagram does. The editor marks a node with a type tag and an open bag of
properties; `Family.ofTag` reads the tag and `Step.ofBag` the bag, with all defaults filled in, so
that nothing after this module meets a missing or mistyped property.
-/

namespace Switchboard

/-- The kinds of node that have a meaning of their own, and `other`. Several tags may name one. -/
inductive Family where
  | answer
  | play
  | gather
  | forward
  | hangUp
  | callRecording
  | voicemail
  | sms
  | menu
  | other
deriving DecidableEq, Repr

def Family.ofTag (tag : String) : Family :=
  match tag with
  | "answer-call" => .answer
  | "play-message" => .play
  | "play-audio-tts" => .play
  | "gather-input" => .gather
  | "forward-to-phone" => .forward
  | "hang-up" => .hangUp
  | "hang-up-call" => .hangUp
  | "start-call-recording" => .callRecording
  | "voicemail-recording" => .voicemail
  | "record-voice" => .voicemail
  | "record-voicemail" => .voicemail
  | "send-sms" => .sms
  | "send-message" => .sms
  | "ivr-menu" => .menu
  | _ => .other

def Family.canonicalTag : Family → String
  | .answer => "answer-call"
  | .play => "play-audio-tts"
  | .gather => "gather-input"
  | .forward => "forward-to-phone"
  | .hangUp => "hang-up-call"
  | .callRecording => "start-call-recording"
  | .voicemail => "voicemail-recording"
  | .sms => "send-sms"
  | .menu => "ivr-menu"
  | .other => "unknown-passthrough"

inductive Message where
  | speech (text : String)
  | audio (file : String)
  | silence
deriving DecidableEq, Repr

structure Prompt where
  message : Message
  voice : Option String
  language : String
deriving DecidableEq, Repr

inductive InputMode where
  | dtmf
  | speech
deriving DecidableEq, Repr

structure Gather where
  input : InputMode
  minDigits : Nat
  maxDigits : Nat
  /-- In seconds. -/
  timeout : Nat
  finishOnKey : String
  entries : List MenuEntry
deriving DecidableEq, Repr

structure Forward where
  phoneNumber : Option String
  callerId : Option String
  /-- In seconds. -/
  timeout : Nat
deriving DecidableEq, Repr

inductive RecordingMode where
  /-- Records the live call. -/
  | call
  /-- Records a message left by the caller. -/
  | voicemail
deriving DecidableEq, Repr

structure Recording where
  mode : RecordingMode
  /-- In seconds. -/
  maxDuration : Nat
  finishOnKey : String
  beep : Bool
deriving DecidableEq, Repr

structure Sms where
  phoneNumber : Option String
  message : Option String
deriving DecidableEq, Repr

/-- The settings of a menu node. What is not set depends on where the menu is installed. -/
structure MenuSettings where
  extension : Option String
  context : Option String
  greetLong : Option String
  greetShort : Option String
  /-- In milliseconds. -/
  timeout : Option Nat
  exitAction : Option String
  directDial : Option Bool
  ringBack : Option String
  callerIdNamePrefix : Option String
  enabled : Option Bool
  description : Option String
  entries : List MenuEntry
deriving DecidableEq, Repr

inductive Step where
  | answer
  | play (prompt : Prompt)
  | gather (gather : Gather)
  | forward (forward : Forward)
  | hangUp (reason : String)
  | record (recording : Recording)
  | sms (sms : Sms)
  | menu (settings : MenuSettings)
  /-- A node without a meaning of its own; its properties are kept. -/
  | other (bag : Bag)
deriving Repr

/-! ## Reading properties -/

def defaultLanguage : String := "en-US"

namespace Prompt

/-- A message whose text or file is not set is silence. -/
def messageOf (bag : Bag) : Message :=
  if bag.text? "messageType" = some "tts" then
    match bag.text? "messageText" with
    | some text => .speech text
    | none => .silence
  else if bag.text? "messageType" = some "audio" then
    match bag.text? "audioFile" with
    | some file => .audio file
    | none => .silence
  else .silence

def ofBag (bag : Bag) : Prompt where
  message := messageOf bag
  voice := bag.text? "voice"
  language := (bag.text? "language").getD defaultLanguage

end Prompt

def Gather.ofBag (bag : Bag) : Gather where
  input := if bag.text? "inputType" = some "speech" then .speech else .dtmf
  minDigits := (bag.positive? "minDigits").getD 1
  maxDigits := (bag.positive? "maxDigits").getD 10
  timeout := (bag.positive? "timeout").getD 5
  finishOnKey := (bag.text? "finishOnKey").getD "#"
  entries := MenuEntry.ofProperty (bag.get? "menuOptions")

def Forward.ofBag (bag : Bag) : Forward where
  phoneNumber := bag.text? "phoneNumber"
  callerId := bag.text? "callerId"
  timeout := (bag.positive? "timeout").getD 30

def Recording.ofBag (mode : RecordingMode) (bag : Bag) : Recording where
  mode := mode
  maxDuration := (bag.positive? "maxDuration").getD 300
  finishOnKey := (bag.text? "finishOnKey").getD "#"
  beep := (bag.flag? "playBeep").getD true

def Sms.ofBag (bag : Bag) : Sms where
  phoneNumber := bag.text? "phoneNumber"
  message := bag.text? "message"

def MenuSettings.ofBag (bag : Bag) : MenuSettings where
  extension := bag.text? "extension"
  context := bag.text? "context"
  greetLong := bag.text? "greetLong"
  greetShort := bag.text? "greetShort"
  timeout := bag.positive? "timeout"
  exitAction := bag.text? "exitAction"
  directDial := bag.flag? "directDial"
  ringBack := bag.text? "ringBack"
  callerIdNamePrefix := bag.text? "callerIdNamePrefix"
  enabled := bag.flag? "enabled"
  description := bag.text? "description"
  entries := MenuEntry.ofProperty (bag.get? "menuOptions")

namespace Step

def ofBag (family : Family) (bag : Bag) : Step :=
  match family with
  | .answer => .answer
  | .play => .play (.ofBag bag)
  | .gather => .gather (.ofBag bag)
  | .forward => .forward (.ofBag bag)
  | .hangUp => .hangUp ((bag.text? "reason").getD "Call completed")
  | .callRecording => .record (.ofBag .call bag)
  | .voicemail => .record (.ofBag .voicemail bag)
  | .sms => .sms (.ofBag bag)
  | .menu => .menu (.ofBag bag)
  | .other => .other bag

def family : Step → Family
  | .answer => .answer
  | .play _ => .play
  | .gather _ => .gather
  | .forward _ => .forward
  | .hangUp _ => .hangUp
  | .record r =>
    match r.mode with
    | .call => .callRecording
    | .voicemail => .voicemail
  | .sms _ => .sms
  | .menu _ => .menu
  | .other _ => .other

theorem family_ofBag (f : Family) (bag : Bag) : (ofBag f bag).family = f := by
  cases f <;> rfl

end Step

end Switchboard
