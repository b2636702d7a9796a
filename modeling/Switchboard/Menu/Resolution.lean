import Switchboard.Diagram.Path
import Switchboard.Menu.Destination
import Switchboard.Options

/-!
# Switchboard.Menu.Resolution

Where a caller ends up who goes to a node. Play and gather nodes only pass a caller on, along their
first edge; every other node decides. A way that ends without a decision, or runs in a circle,
leads to the default extension.
-/

namespace Switchboard

def menuContext : String := "default"

/-- Where calls go that nothing else decides on. -/
def Options.lastResort (o : Options) : Destination := .transfer o.defaultExtension menuContext

/-- The extension that an untyped node asks for. -/
def Bag.extension? (bag : Bag) : Option String :=
  match bag.get? "extension" with
  | some (.string s) => if s.isEmpty then none else some s
  | some (.number n) => some n.text
  | _ => none

/-- What a step decides for a caller; `none` if it passes the caller on. -/
def Step.decision (o : Options) : Step → Option Destination
  | .play _ | .gather _ => none
  | .forward f =>
    match f.phoneNumber with
    | some number => some (.bridge number o.pbxDomain)
    | none => some o.lastResort
  | .hangUp _ => some .hangUp
  | .menu s => some (.transfer (s.extension.getD o.defaultExtension) menuContext)
  | .other bag => some (.transfer (bag.extension?.getD o.defaultExtension) menuContext)
  | .answer | .record _ | .sms _ => some o.lastResort

structure Resolution where
  destination : Destination
  /-- The node at which the way closed a circle, if it did. -/
  circle : Option String
deriving DecidableEq, Repr

/-- Goes on from a node; `fresh` holds the ids of the nodes that the way has not met yet. -/
def Index.resolveFrom (g : Index) (o : Options) (fresh : List String) (id : String) : Resolution :=
  match g.node? id with
  | none => ⟨o.lastResort, none⟩
  | some n =>
    if id ∈ fresh then
      match n.step.decision o with
      | some d => ⟨d, none⟩
      | none =>
        match g.next? id with
        | some next => resolveFrom g o (fresh.removeAll [id]) next
        | none => ⟨o.lastResort, none⟩
    else ⟨o.lastResort, some id⟩
termination_by fresh.length
decreasing_by exact Diagram.length_removeAll_lt ‹_›

def Index.resolve (g : Index) (o : Options) (id : String) : Resolution :=
  g.resolveFrom o g.diagram.ids id

end Switchboard
