import Switchboard.Json.Value

/-!
# Switchboard.Json.Printer

JSON values as text: on one line, or on indented lines. Only the quote, the backslash and the
controls below the blank are escaped.
-/

namespace Switchboard
namespace Json

def hexDigit (n : Nat) : Char := (Nat.digitChar n)

def escapeChar (c : Char) : List Char :=
  match c with
  | '"' => ['\\', '"']
  | '\\' => ['\\', '\\']
  | '\x08' => ['\\', 'b']
  | '\t' => ['\\', 't']
  | '\n' => ['\\', 'n']
  | '\x0c' => ['\\', 'f']
  | '\r' => ['\\', 'r']
  | c =>
    if c < ' ' then ['\\', 'u', '0', '0', hexDigit (c.toNat / 16), hexDigit (c.toNat % 16)]
    else [c]

def quote (s : String) : String :=
  String.ofList ('"' :: s.toList.flatMap escapeChar ++ ['"'])

mutual

/-- The text on one line, without blanks. -/
def compact : Json → String
  | .null => "null"
  | .bool b => if b then "true" else "false"
  | .number n => n.text
  | .string s => quote s
  | .array items => "[" ++ compactItems items ++ "]"
  | .object members => "\x7b" ++ compactMembers members ++ "\x7d"

def compactItems : List Json → String
  | [] => ""
  | [v] => v.compact
  | v :: w :: rest => v.compact ++ "," ++ compactItems (w :: rest)

def compactMembers : List (String × Json) → String
  | [] => ""
  | [(name, v)] => quote name ++ ":" ++ v.compact
  | (name, v) :: w :: rest => quote name ++ ":" ++ v.compact ++ "," ++ compactMembers (w :: rest)

end

/-- A line break and `depth` steps of indentation, two blanks each. -/
def lineBreak (depth : Nat) : String :=
  String.ofList ('\n' :: List.replicate (2 * depth) ' ')

mutual

/-- The text on indented lines; empty brackets stay together. -/
def prettyAt (depth : Nat) : Json → String
  | .array [] => "[]"
  | .array (v :: vs) =>
    "[" ++ prettyItems (depth + 1) (v :: vs) ++ lineBreak depth ++ "]"
  | .object [] => "\x7b\x7d"
  | .object (m :: ms) =>
    "\x7b" ++ prettyMembers (depth + 1) (m :: ms) ++ lineBreak depth ++ "\x7d"
  | .null => "null"
  | .bool b => if b then "true" else "false"
  | .number n => n.text
  | .string s => quote s

def prettyItems (depth : Nat) : List Json → String
  | [] => ""
  | [v] => lineBreak depth ++ prettyAt depth v
  | v :: w :: rest => lineBreak depth ++ prettyAt depth v ++ "," ++ prettyItems depth (w :: rest)

def prettyMembers (depth : Nat) : List (String × Json) → String
  | [] => ""
  | [(name, v)] => lineBreak depth ++ quote name ++ ": " ++ prettyAt depth v
  | (name, v) :: w :: rest =>
    lineBreak depth ++ quote name ++ ": " ++ prettyAt depth v ++ "," ++
      prettyMembers depth (w :: rest)

end

def pretty (v : Json) : String := prettyAt 0 v

mutual

def sortKeys : Json → Json
  | .array items => .array (sortKeysItems items)
  | .object members =>
    .object ((sortKeysMembers members).mergeSort fun a b => decide (a.1 ≤ b.1))
  | .null => .null
  | .bool b => .bool b
  | .number n => .number n
  | .string s => .string s

def sortKeysItems : List Json → List Json
  | [] => []
  | v :: rest => v.sortKeys :: sortKeysItems rest

def sortKeysMembers : List (String × Json) → List (String × Json)
  | [] => []
  | (name, v) :: rest => (name, v.sortKeys) :: sortKeysMembers rest

end

example : quote "a\"\n\x01" = "\"a\\\"\\n\\u0001\"" := by decide

end Json
end Switchboard
