import Switchboard.Text.Blank

/-!
# Switchboard.Dialplan.Pattern

The regular expression that a dialed number is matched against. What only lays a number out is
dropped; the rest has to come literally, with or without a plus sign in front.
-/

namespace Switchboard
namespace Pattern

def isLayout (c : Char) : Bool :=
  c == '+' || c == '-' || c == '(' || c == ')' || c == '.' || Text.isBlank c

def normalize (number : List Char) : List Char := number.filter fun c => !isLayout c

def isSpecial (c : Char) : Bool :=
  "\\.+*?()|[]\x7b\x7d^$#&-~".toList.contains c

/-- The expression that matches exactly these characters. -/
def escape (cs : List Char) : List Char :=
  cs.flatMap fun c => if isSpecial c then ['\\', c] else [c]

/-- The expression for a number: an optional plus sign and the number, or the number. -/
def ofNumber (number : String) : String :=
  let n := escape (normalize number.toList)
  String.ofList ("^\\+?".toList ++ n ++ "$|^".toList ++ n ++ ['$'])

example : ofNumber "+1 (555) 123-4567" = "^\\+?15551234567$|^15551234567$" := by decide

end Pattern
end Switchboard
