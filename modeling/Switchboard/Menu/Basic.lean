import Switchboard.Json.Value
import Switchboard.Menu.Destination

/-!
# Switchboard.Menu.Basic

A digit menu of the PBX: its greetings and settings, and where each digit sends the caller.
-/

namespace Switchboard

inductive Origin where
  | menuNode (id : String)
  | gatherNode (id : String)
  /-- No part of it; the menu holds nothing but defaults. -/
  | none
deriving DecidableEq, Repr

structure MenuOption where
  digit : String
  destination : Destination
  order : Nat
  description : String
  enabled : Bool
deriving DecidableEq, Repr

structure Menu where
  origin : Origin
  extension : String
  context : String
  greetLong : String
  greetShort : String
  /-- In milliseconds. -/
  timeout : Nat
  exitAction : Option Destination
  directDial : Bool
  ringBack : String
  callerIdNamePrefix : String
  enabled : Bool
  description : String
  options : List MenuOption
deriving DecidableEq, Repr

def Origin.toJson : Origin → Json
  | .menuNode id => .object [("kind", .string "explicit-node"), ("nodeId", .string id)]
  | .gatherNode id => .object [("kind", .string "gather-input"), ("nodeId", .string id)]
  | .none => .object [("kind", .string "none")]

def MenuOption.toJson (o : MenuOption) : Json :=
  .object [
    ("digit", .string o.digit),
    ("destination", .string o.destination.text),
    ("order", .nat o.order),
    ("description", .string o.description),
    ("enabled", .bool o.enabled)]

namespace Menu

def isFound (m : Menu) : Bool := m.origin != .none

def option? (m : Menu) (digit : String) : Option MenuOption :=
  m.options.find? (·.digit == digit)

def toJson (m : Menu) : Json :=
  .object [
    ("origin", m.origin.toJson),
    ("extension", .string m.extension),
    ("context", .string m.context),
    ("greetLong", .string m.greetLong),
    ("greetShort", .string m.greetShort),
    ("timeoutMs", .nat m.timeout),
    ("exitAction", .ofText? (m.exitAction.map (·.text))),
    ("directDial", .bool m.directDial),
    ("ringBack", .string m.ringBack),
    ("callerIdNamePrefix", .string m.callerIdNamePrefix),
    ("enabled", .bool m.enabled),
    ("description", .string m.description),
    ("options", .array (m.options.map (·.toJson)))]

end Menu
end Switchboard
