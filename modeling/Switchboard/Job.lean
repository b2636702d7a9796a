import Switchboard.Dialplan.Xml
import Switchboard.Flow.Cloud
import Switchboard.Menu.Extraction
import Switchboard.Menu.Rows

/-!
# Switchboard.Job

A compilation: a diagram, the name of its flow and the options of the place it is for, and the
artifact that they give for a target.
-/

namespace Switchboard

inductive Target where
  /-- A state machine for the cloud call engine. -/
  | cloud
  | dialplan
  | menu
  /-- A menu if the diagram has one, else a dialplan. -/
  | auto
deriving DecidableEq, Repr

inductive Artifact where
  | cloud (flow : CloudFlow)
  | dialplan (flow : PbxFlow) (xml : String)
  | menu (menu : Menu) (rows : MenuRows)

structure Job where
  diagram : Diagram
  name : String
  options : Options

def defaultFlowName : String := "Untitled Flow"

namespace Job

def cloudFlow (j : Job) : Except CompileError CloudFlow :=
  CloudFlow.ofIndex j.options j.diagram.index

def pbxFlow (j : Job) (r : Option Routing) : Except CompileError PbxFlow :=
  PbxFlow.ofIndex j.options r j.diagram.index

def extractMenu (j : Job) (extension context : String) : Menu :=
  .extract j.diagram.index j.options j.name extension context

def menuFor (j : Job) (r : Option Routing) : Menu :=
  j.extractMenu (j.options.routing r).destination (j.options.routing r).context.name

def dialplanOf (j : Job) (f : PbxFlow) : Dialplan := .ofFlow f j.name j.options.pbxDomain

def dialplanArtifact (j : Job) (r : Option Routing) : Except CompileError Artifact :=
  match j.pbxFlow r with
  | .ok f => .ok (.dialplan f (j.dialplanOf f).xml)
  | .error e => .error e

def menuArtifact (j : Job) (m : Menu) : Artifact := .menu m (m.rows j.name)

def compile (j : Job) (target : Target) (r : Option Routing) : Except CompileError Artifact :=
  if j.diagram.isEmpty then .error .emptyDiagram
  else
    match target with
    | .cloud =>
      match j.cloudFlow with
      | .ok f => .ok (.cloud f)
      | .error e => .error e
    | .dialplan => j.dialplanArtifact r
    | .menu => .ok (j.menuArtifact (j.menuFor r))
    | .auto =>
      if (j.menuFor r).isFound then .ok (j.menuArtifact (j.menuFor r))
      else j.dialplanArtifact r

end Job
end Switchboard
