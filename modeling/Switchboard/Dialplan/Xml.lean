import Switchboard.Dialplan.Basic
import Switchboard.Dialplan.Pattern

/-!
# Switchboard.Dialplan.Xml

The XML document of a dialplan, one element a line.
-/

namespace Switchboard
namespace Xml

def escapeChar (c : Char) : List Char :=
  match c with
  | '&' => "&amp;".toList
  | '<' => "&lt;".toList
  | '>' => "&gt;".toList
  | '"' => "&quot;".toList
  | '\'' => "&apos;".toList
  | c => [c]

def escape (s : String) : String := String.ofList (s.toList.flatMap escapeChar)

/-- Parts two hyphens that stand together, from left to right. -/
def partHyphens : List Char → List Char
  | '-' :: '-' :: cs => '-' :: ' ' :: '-' :: partHyphens cs
  | c :: cs => c :: partHyphens cs
  | [] => []

def attr (name value : String) : String := " " ++ name ++ "=\"" ++ value ++ "\""

end Xml

open Xml

def Line.xml : Line → String
  | .application name none => "          <action" ++ attr "application" name ++ "/>\n"
  | .application name (some data) =>
    "          <action" ++ attr "application" name ++ attr "data" (escape data) ++ "/>\n"
  | .comment text =>
    "          <!-- " ++ String.ofList (partHyphens text.toList) ++ " -->\n"

namespace Dialplan

def head (d : Dialplan) : String :=
  "<?xml version=\"1.0\" encoding=\"UTF-8\" standalone=\"no\"?>\n" ++
  "<document type=\"freeswitch/xml\">\n" ++
  "  <section name=\"dialplan\" description=\"IVR Dialplan\">\n" ++
  "    <context" ++ attr "name" (escape d.context) ++ ">\n" ++
  "      <extension" ++ attr "name" (escape d.name) ++ attr "continue" "false" ++
    attr "uuid" d.uuid.text ++ ">\n" ++
  "        <condition" ++ attr "field" "destination_number" ++
    attr "expression" (escape (Pattern.ofNumber d.number)) ++ ">\n"

def tail : String :=
  "        </condition>\n      </extension>\n    </context>\n  </section>\n</document>"

def xml (d : Dialplan) : String := d.head ++ String.join (d.lines.map (·.xml)) ++ tail

end Dialplan
end Switchboard
