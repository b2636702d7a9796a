import Switchboard.CommandLine

/-!
# Switchboard.Main

The program: files, the environment and the two output streams.
-/

namespace Switchboard

def fileError : IO.Error → FileError
  | .noFileOrDirectory .. => .notFound
  | .permissionDenied .. => .permissionDenied
  | .inappropriateType none .. => .isDirectory
  | .inappropriateType (some _) .. => .notDirectory
  | .invalidArgument .. => .nameTooLong
  | .userError _ => .notUtf8
  | e => .other (toString e)

def readFile (path : String) : IO (Except FileError String) := do
  try
    return .ok (← IO.FS.readFile path)
  catch e =>
    return .error (fileError e)

end Switchboard

open Switchboard in
def main (words : List String) : IO UInt32 := do
  let names := [CommandLine.Setting.domain, .callerId, .webhookBase].filterMap (·.environmentName?)
  let environment ← names.filterMapM fun name => do
    return (← IO.getEnv name).map fun value => (name, value)
  match ← CommandLine.run readFile (environment.lookup ·) words with
  | .ok text =>
    IO.print text
    return 0
  | .error failure =>
    IO.eprintln ("\nError: " ++ failure.message)
    return UInt32.ofNat failure.code
