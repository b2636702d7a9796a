/-!
# Switchboard.Menu.Destination

Where a menu sends a caller, and the one-line instruction that the PBX keeps for it. `read` takes
any text; what is none of the known instructions is kept word for word.
-/

namespace Switchboard

inductive Destination where
  | transfer (extension context : String)
  | bridge (number domain : String)
  | hangUp
  /-- An instruction of another form. -/
  | custom (text : String)
deriving DecidableEq, Repr

namespace Destination

def marker : String := "menu-exec-app:"

def text : Destination → String
  | transfer extension context => marker ++ "transfer " ++ extension ++ " XML " ++ context
  | bridge number domain => marker ++ "bridge user/" ++ number ++ "@" ++ domain
  | hangUp => marker ++ "hangup"
  | custom t => t

/-- `EXTENSION XML CONTEXT`, single blanks in between and none elsewhere. -/
def readTransfer (cs : List Char) : Option Destination :=
  let extension := cs.takeWhile (· ≠ ' ')
  match " XML ".toList.isPrefixOf? (cs.dropWhile (· ≠ ' ')) with
  | some context =>
    if ' ' ∈ context then none
    else some (.transfer (String.ofList extension) (String.ofList context))
  | none => none

/-- `NUMBER@DOMAIN`, cut at the last `@`. -/
def readBridge (cs : List Char) : Option Destination :=
  let domain := (cs.reverse.takeWhile (· ≠ '@')).reverse
  match cs.reverse.dropWhile (· ≠ '@') with
  | _ :: number => some (.bridge (String.ofList number.reverse) (String.ofList domain))
  | [] => none

def readCommand (cs : List Char) : Option Destination :=
  if cs = "hangup".toList then some .hangUp
  else
    match "transfer ".toList.isPrefixOf? cs with
    | some arguments => readTransfer arguments
    | none => ("bridge user/".toList.isPrefixOf? cs).bind readBridge

def readKnown (text : String) : Option Destination :=
  (marker.toList.isPrefixOf? text.toList).bind readCommand

/-- The known instruction, if its text is the very text that was read, else the text itself. -/
def read (text : String) : Destination :=
  ((readKnown text).filter (·.text = text)).getD (.custom text)

example : read "menu-exec-app:transfer 2000 XML public" = .transfer "2000" "public" := by decide
example : read "menu-exec-app:bridge user/a@b@c" = .bridge "a@b" "c" := by decide
example : read "menu-exec-app:transfer  1 XML c" = .custom "menu-exec-app:transfer  1 XML c" := by
  decide

end Destination
end Switchboard
