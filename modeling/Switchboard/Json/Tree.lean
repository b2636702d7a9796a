import Switchboard.Json.Token

/-!
# Switchboard.Json.Tree

The shape of a JSON text: what its brackets enclose, with numbers and strings as written and the
members of an object all kept, in order, repeated names included. Nothing limits how deep brackets
nest here, so the builder keeps the open brackets on a stack of its own.
-/

namespace Switchboard
namespace Json

inductive Tree where
  | null
  | bool (value : Bool)
  | number (literal : NumberLiteral)
  | string (units : List StringUnit)
  | array (items : List Tree)
  | object (members : List (List StringUnit × Tree))

/-- An open bracket and what it holds so far, latest first. -/
inductive Frame where
  | array (items : List Tree)
  | object (members : List (List StringUnit × Tree))
  /-- An object whose member `name` waits for its value. -/
  | member (members : List (List StringUnit × Tree)) (name : List StringUnit)

inductive Expected where
  | value
  /-- A value or the end of the array, right after the array's begin. -/
  | valueOrEnd
  | name
  /-- A member's name or the end of the object, right after the object's begin. -/
  | nameOrEnd
  | colon
  /-- A comma or the end of the innermost open bracket. -/
  | commaOrEnd

/-- A text under construction, or a whole one. -/
inductive Building where
  | unfinished (expected : Expected) (frames : List Frame)
  | finished (tree : Tree)

namespace Building

/-- Hands a whole value to the innermost open bracket. -/
def supply (t : Tree) : List Frame → Option Building
  | [] => some (.finished t)
  | .array items :: fs => some (.unfinished .commaOrEnd (.array (t :: items) :: fs))
  | .member members name :: fs =>
    some (.unfinished .commaOrEnd (.object ((name, t) :: members) :: fs))
  | .object _ :: _ => none

def beginValue (frames : List Frame) : Token → Option Building
  | .null => supply .null frames
  | .bool b => supply (.bool b) frames
  | .number l => supply (.number l) frames
  | .string us => supply (.string us) frames
  | .beginArray => some (.unfinished .valueOrEnd (.array [] :: frames))
  | .beginObject => some (.unfinished .nameOrEnd (.object [] :: frames))
  | _ => none

def beginMember : List Frame → Token → Option Building
  | .object members :: fs, .string us => some (.unfinished .colon (.member members us :: fs))
  | _, _ => none

def close : List Frame → Token → Option Building
  | .array items :: fs, .endArray => supply (.array items.reverse) fs
  | .object members :: fs, .endObject => supply (.object members.reverse) fs
  | _, _ => none

def step : Building → Token → Option Building
  | .finished _, _ => none
  | .unfinished .value fs, t => beginValue fs t
  | .unfinished .valueOrEnd fs, t =>
    match t with
    | .endArray => close fs t
    | _ => beginValue fs t
  | .unfinished .name fs, t => beginMember fs t
  | .unfinished .nameOrEnd fs, t =>
    match t with
    | .endObject => close fs t
    | _ => beginMember fs t
  | .unfinished .colon fs, t =>
    match t with
    | .colon => some (.unfinished .value fs)
    | _ => none
  | .unfinished .commaOrEnd fs, t =>
    match t, fs with
    | .comma, .array _ :: _ => some (.unfinished .value fs)
    | .comma, .object _ :: _ => some (.unfinished .name fs)
    | .comma, _ => none
    | _, _ => close fs t

def run : Building → List Token → Option Tree
  | .finished t, [] => some t
  | .unfinished _ _, [] => none
  | b, t :: ts =>
    match step b t with
    | none => none
    | some b' => run b' ts

end Building

def Tree.ofChars? (cs : List Char) : Option Tree :=
  (tokens? cs).bind (Building.run (.unfinished .value []))

end Json
end Switchboard
