import Switchboard.FileSystem
import Switchboard.Json.Record

/-!
# Switchboard.Options

Settings of the place where a flow is installed, which the diagram does not carry.
-/

namespace Switchboard

structure Options where
  /-- The domain of the PBX's users, as in `user/1001@domain`. -/
  pbxDomain : String
  /-- The number that the cloud engine shows on outbound calls and messages. -/
  callerId : Option String
  /-- Where the cloud engine reports on recordings, without the report's own path. -/
  webhookBase : Option String
  /-- The extension to answer on, or to fall back to, where nothing else is said. -/
  defaultExtension : String
  description : String
  defaultVoice : String
deriving DecidableEq, Repr

inductive OptionsError where
  | unreadable (path : String) (reason : FileError)
  | malformed (detail : String)
deriving DecidableEq, Repr

def OptionsError.message : OptionsError → String
  | .unreadable path reason => "Could not read config file '" ++ path ++ "': " ++ reason.message
  | .malformed detail => "Failed to parse config: " ++ detail

namespace Options

def default : Options where
  pbxDomain := "localhost"
  callerId := none
  webhookBase := none
  defaultExtension := "1000"
  description := "IVR Flow generated from Workflow Builder"
  defaultVoice := "alice"

def recordingCallback? (o : Options) : Option String :=
  o.webhookBase.map fun base =>
    String.ofList (base.toList.reverse.dropWhile (· = '/')).reverse ++
      "/api/webhooks/recording-status"

open Json in
/-- A record of options, in which each field keeps its default unless it is given. -/
def ofTree? (t : Tree) : Option Options :=
  let text (value : String) : FieldReader String := .withDefault value Tree.string?
  let names := ["pbx_domain", "caller_id", "webhook_base_url", "default_extension", "description",
    "default_voice"]
  match slots? names t with
  | some [domain, caller, webhook, extension, description, voice] => do
    some {
      pbxDomain := ← text default.pbxDomain domain
      callerId := ← FieldReader.optional Tree.string? caller
      webhookBase := ← FieldReader.optional Tree.string? webhook
      defaultExtension := ← text default.defaultExtension extension
      description := ← text default.description description
      defaultVoice := ← text default.defaultVoice voice
    }
  | _ => none

def read (s : String) : Except OptionsError Options :=
  match (Json.Tree.ofChars? s.toList).bind ofTree? with
  | some o => .ok o
  | none => .error (.malformed "the text is not a record of options")

end Options
end Switchboard
