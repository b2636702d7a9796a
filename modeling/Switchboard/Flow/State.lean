import Switchboard.Flow.Transitions

/-!
# Switchboard.Flow.State

States of a compiled flow. A state performs one action of its target's vocabulary, and what kind
of action that is shows as the state's type.
-/

namespace Switchboard

inductive ActionKind where
  | sayPlay
  | gather
  | hangUp
  | connect
  | recordVoice
  | sendMessage
deriving DecidableEq, Repr

def ActionKind.name : ActionKind → String
  | .sayPlay => "say-play"
  | .gather => "gather"
  | .hangUp => "hangup"
  | .connect => "connect"
  | .recordVoice => "record-voice"
  | .sendMessage => "send-message"

class Action (α : Type) where
  kind : α → ActionKind
  /-- The parameters; those that are not set are left out. -/
  toJson : α → Json

structure State (α : Type) where
  name : String
  transitions : Transitions
  action : α

namespace State

variable {α : Type} [Action α]

def kind (s : State α) : ActionKind := Action.kind s.action

def toJson (s : State α) : Json :=
  .object [
    ("type", .string s.kind.name),
    ("name", .string s.name),
    ("transitions", s.transitions.toJson),
    ("properties", Action.toJson s.action)]

end State

/-- States by the id of the node that each was made from. -/
abbrev States (α : Type) := OrderedMap (State α)

def States.toJson {α : Type} [Action α] (states : States α) : Json :=
  .object (states.entries.map fun (key, s) => (key, s.toJson))

def presentMembers (members : List (String × Option Json)) : List (String × Json) :=
  members.filterMap fun (name, v) => v.map fun v => (name, v)

end Switchboard
