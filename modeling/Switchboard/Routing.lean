/-!
# Switchboard.Routing

Where calls reach a PBX flow: a number, and the dialplan context that it is installed in.
-/

namespace Switchboard

inductive Context where
  | internal
  /-- Inbound calls to full phone numbers. -/
  | inbound
deriving DecidableEq, Repr

namespace Context

def name : Context → String
  | .internal => "default"
  | .inbound => "public"

/-- Extensions have three or four ASCII digits; every other number is a full one. -/
def forDestination (number : String) : Context :=
  let cs := number.toList
  if 3 ≤ cs.length ∧ cs.length ≤ 4 ∧ cs.all Char.isDigit then .internal else .inbound

end Context

structure UnknownContext where
  text : String
deriving DecidableEq, Repr

def UnknownContext.message (e : UnknownContext) : String :=
  "unknown dialplan context '" ++ e.text ++ "'"

def Context.read (text : String) : Except UnknownContext Context :=
  if text = Context.internal.name then .ok .internal
  else if text = Context.inbound.name then .ok .inbound
  else .error ⟨text⟩

structure Routing where
  destination : String
  context : Context
deriving DecidableEq, Repr

/-- Routing in the context that suits the number's shape. -/
def Routing.forDestination (destination : String) : Routing :=
  ⟨destination, .forDestination destination⟩

end Switchboard
