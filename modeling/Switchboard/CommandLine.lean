import Switchboard.Diagram.Payload
import Switchboard.Job
import Switchboard.Json.Printer

/-!
# Switchboard.CommandLine

The command line: what its words mean, and what it writes for them. Files and the environment come
in as functions, so that nothing here touches the world.

`Arguments.read` takes the words, `run` does the work: it reads the options, then the diagram, then
compiles. A setting on the command line wins over the environment, and that over the options' file.
-/

namespace Switchboard
namespace CommandLine

/-- The options that take a value. -/
inductive Setting where
  | target
  | name
  | number
  | config
  | domain
  | callerId
  | webhookBase
deriving DecidableEq, Repr

namespace Setting

def ofLong? : List Char → Option Setting := fun cs =>
  match String.ofList cs with
  | "target" => some .target
  | "name" => some .name
  | "number" => some .number
  | "config" => some .config
  | "domain" => some .domain
  | "caller-id" => some .callerId
  | "webhook-base-url" => some .webhookBase
  | _ => none

def ofShort? : Char → Option Setting
  | 't' => some .target
  | 'n' => some .name
  | 'c' => some .config
  | _ => none

/-- The environment variable that stands in for a setting. -/
def environmentName? : Setting → Option String
  | .domain => some "CALLFLOW_PBX_DOMAIN"
  | .callerId => some "CALLFLOW_CALLER_ID"
  | .webhookBase => some "CALLFLOW_WEBHOOK_BASE_URL"
  | _ => none

end Setting

structure Words where
  settings : List (Setting × String)
  positional : List String
deriving DecidableEq, Repr

inductive Word where
  /-- A setting with its value in the same word. -/
  | setting (s : Setting) (value : String)
  /-- A setting whose value is the next word. -/
  | settingOf (s : Setting)
  | positional (value : String)
  /-- From here on every word is positional. -/
  | endOfSettings
  | unknown
deriving DecidableEq, Repr

/-- Whether a word can be the value of the setting before it. -/
def isValue (word : String) : Bool :=
  match word.toList with
  | '-' :: _ :: _ => false
  | _ => true

def classify (word : String) : Word :=
  match word.toList with
  | ['-', '-'] => .endOfSettings
  | '-' :: '-' :: cs =>
    match Setting.ofLong? (cs.takeWhile (· ≠ '=')), cs.dropWhile (· ≠ '=') with
    | some s, [] => .settingOf s
    | some s, _ :: value => .setting s (String.ofList value)
    | none, _ => .unknown
  | '-' :: c :: cs =>
    match Setting.ofShort? c, cs with
    | some s, [] => .settingOf s
    | some s, '=' :: value => .setting s (String.ofList value)
    | some s, value => .setting s (String.ofList value)
    | none, _ => .unknown
  | _ => .positional word

/-- Records a setting, which may come only once. -/
def Words.add (w : Words) (s : Setting) (value : String) : Option Words :=
  if (w.settings.lookup s).isSome then none
  else some { w with settings := w.settings ++ [(s, value)] }

/-- Sorts the words; `none` if they do not make sense. -/
def Words.read (w : Words) : List String → Option Words
  | [] => some w
  | word :: rest =>
    match classify word with
    | .endOfSettings => some { w with positional := w.positional ++ rest }
    | .positional value => Words.read { w with positional := w.positional ++ [value] } rest
    | .unknown => none
    | .setting s value =>
      match w.add s value with
      | some w => Words.read w rest
      | none => none
    | .settingOf s =>
      match rest with
      | [] => none
      | value :: rest =>
        if isValue value then
          match w.add s value with
          | some w => Words.read w rest
          | none => none
        else none

structure Arguments where
  diagramPath : String
  target : Target
  name : String
  number : Option String
  configPath : Option String
  domain : Option String
  callerId : Option String
  webhookBase : Option String
deriving DecidableEq, Repr

def targetOf? : String → Option Target
  | "cloud" => some .cloud
  | "dialplan" => some .dialplan
  | "menu" => some .menu
  | "auto" => some .auto
  | _ => none

def Arguments.read (environment : String → Option String) (words : List String) :
    Option Arguments :=
  match Words.read ⟨[], []⟩ words with
  | none => none
  | some w =>
    let value? (s : Setting) : Option String :=
      (w.settings.lookup s).or (s.environmentName?.bind environment)
    match w.positional, targetOf? ((value? .target).getD "cloud") with
    | [path], some target => some {
        diagramPath := path
        target := target
        name := (value? .name).getD defaultFlowName
        number := value? .number
        configPath := value? .config
        domain := value? .domain
        callerId := value? .callerId
        webhookBase := value? .webhookBase }
    | _, _ => none

inductive Failure where
  | usage
  | options (error : OptionsError)
  | unreadable (path : String) (reason : FileError)
  | diagram (error : DiagramError)
  | compile (error : CompileError)
deriving DecidableEq, Repr

namespace Failure

def message : Failure → String
  | usage => "Usage: switchboard [OPTIONS] <DIAGRAM_PATH>"
  | options e => e.message
  | unreadable path reason => "Failed to read diagram file '" ++ path ++ "': " ++ reason.message
  | diagram e => "Failed to load diagram: " ++ e.message
  | compile e => "Compilation failed: " ++ e.message

def code : Failure → Nat
  | usage => 2
  | _ => 1

end Failure

def Arguments.override (a : Arguments) (o : Options) : Options :=
  { o with
    pbxDomain := a.domain.getD o.pbxDomain
    callerId := a.callerId.or o.callerId
    webhookBase := a.webhookBase.or o.webhookBase }

def render : Artifact → String
  | .cloud flow => flow.toJson.pretty ++ "\n"
  | .dialplan _ xml => xml ++ "\n"
  | .menu _ rows => rows.toJson.pretty ++ "\n"

variable {m : Type → Type} [Monad m]

/-- Reads options from a file; `readFile` gives its text or the reason why it cannot. -/
def loadOptions (readFile : String → m (Except FileError String)) (path : String) :
    m (Except OptionsError Options) := do
  match ← readFile path with
  | .ok text => return Options.read text
  | .error reason => return .error (.unreadable path reason)

def compileFile (readFile : String → m (Except FileError String)) (a : Arguments) (o : Options) :
    m (Except Failure String) := do
  match ← readFile a.diagramPath with
  | .error reason => return .error (.unreadable a.diagramPath reason)
  | .ok text =>
    match Diagram.read text with
    | .error e => return .error (.diagram e)
    | .ok d =>
      let job : Job := ⟨d, a.name, a.override o⟩
      match job.compile a.target (a.number.map .forDestination) with
      | .error e => return .error (.compile e)
      | .ok artifact => return .ok (render artifact)

def run (readFile : String → m (Except FileError String)) (environment : String → Option String)
    (words : List String) : m (Except Failure String) := do
  match Arguments.read environment words with
  | none => return .error .usage
  | some a =>
    match a.configPath with
    | none => compileFile readFile a .default
    | some path =>
      match ← loadOptions readFile path with
      | .error e => return .error (.options e)
      | .ok o => compileFile readFile a o

end CommandLine
end Switchboard
