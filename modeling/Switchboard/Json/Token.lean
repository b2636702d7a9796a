import Switchboard.Number.Decimal

/-!
# Switchboard.Json.Token

JSON text as tokens. The scanner is a fold over the characters: `scan` moves one `Mode` on by one
character and may finish a token. Blanks are space, tab, line feed and carriage return alone.

A number and a string are kept as they are written, because whether a number is in range and
whether a string spells proper text is only asked where the value is wanted.
-/

namespace Switchboard
namespace Json

/-- A number as it is written; digits come most significant first. -/
structure NumberLiteral where
  negative : Bool
  whole : List Nat
  fraction : List Nat
  /-- The sign (`true` for minus) and the magnitude of the exponent, if one is written. -/
  exponent : Option (Bool × Nat)
deriving DecidableEq, Repr

/-- One unit of a string: a character, or a code unit written as an escape of four digits. -/
inductive StringUnit where
  | char (c : Char)
  | code (value : Nat)
deriving DecidableEq, Repr

inductive Token where
  | beginArray
  | endArray
  | beginObject
  | endObject
  | comma
  | colon
  | null
  | bool (value : Bool)
  | number (literal : NumberLiteral)
  | string (units : List StringUnit)
deriving DecidableEq, Repr

inductive NumberPart where
  | sign
  | leadingZero
  | whole
  | point
  | fraction
  | exponentMark
  | exponentSign
  | exponent
deriving DecidableEq, Repr

inductive Mode where
  | between
  /-- Inside a word of which `rest` is still to come. -/
  | word (rest : List Char) (token : Token)
  /-- Inside a number; its digits so far stand latest first. -/
  | number (part : NumberPart) (literal : NumberLiteral)
  /-- Inside a string; its units so far stand latest first. -/
  | string (units : List StringUnit)
  | escape (units : List StringUnit)
  /-- Inside a code unit of which `left` digits are still to come. -/
  | code (units : List StringUnit) (left value : Nat)
deriving Repr

def digitValue (c : Char) : Nat := c.toNat - '0'.toNat

def hexValue? (c : Char) : Option Nat :=
  if c.isDigit then some (c.toNat - '0'.toNat)
  else if 'a' ≤ c ∧ c ≤ 'f' then some (c.toNat - 'a'.toNat + 10)
  else if 'A' ≤ c ∧ c ≤ 'F' then some (c.toNat - 'A'.toNat + 10)
  else none

def escaped? : Char → Option Char
  | '"' => some '"'
  | '\\' => some '\\'
  | '/' => some '/'
  | 'b' => some '\x08'
  | 'f' => some '\x0c'
  | 'n' => some '\n'
  | 'r' => some '\r'
  | 't' => some '\t'
  | _ => none

/-- The first character of a token, or a blank. -/
def start (c : Char) : Option (Option Token × Mode) :=
  let empty : NumberLiteral := ⟨false, [], [], none⟩
  match c with
  | ' ' | '\t' | '\n' | '\r' => some (none, .between)
  | '[' => some (some .beginArray, .between)
  | ']' => some (some .endArray, .between)
  | '\x7b' => some (some .beginObject, .between)
  | '\x7d' => some (some .endObject, .between)
  | ',' => some (some .comma, .between)
  | ':' => some (some .colon, .between)
  | '"' => some (none, .string [])
  | 'n' => some (none, .word ['u', 'l', 'l'] .null)
  | 't' => some (none, .word ['r', 'u', 'e'] (.bool true))
  | 'f' => some (none, .word ['a', 'l', 's', 'e'] (.bool false))
  | '-' => some (none, .number .sign { empty with negative := true })
  | '0' => some (none, .number .leadingZero { empty with whole := [0] })
  | c => if c.isDigit then some (none, .number .whole { empty with whole := [digitValue c] })
    else none

/-- The number that ends after `part`, if it may end there. -/
def finishNumber? (part : NumberPart) (l : NumberLiteral) : Option Token :=
  match part with
  | .leadingZero | .whole | .fraction | .exponent =>
    some (.number { l with whole := l.whole.reverse, fraction := l.fraction.reverse })
  | _ => none

/-- A further character of a number; `none` if it does not belong to it. -/
def growNumber? (part : NumberPart) (l : NumberLiteral) (c : Char) : Option Mode :=
  let addWhole (p : NumberPart) : Mode := .number p { l with whole := digitValue c :: l.whole }
  let addFraction : Mode := .number .fraction { l with fraction := digitValue c :: l.fraction }
  let addExponent : Mode :=
    let (minus, n) := l.exponent.getD (false, 0)
    .number .exponent { l with exponent := some (minus, 10 * n + digitValue c) }
  let mark : Option Mode :=
    if c = 'e' ∨ c = 'E' then some (.number .exponentMark { l with exponent := some (false, 0) })
    else none
  let point : Option Mode := if c = '.' then some (.number .point l) else mark
  match part with
  | .sign =>
    if c = '0' then some (addWhole .leadingZero)
    else if c.isDigit then some (addWhole .whole) else none
  | .leadingZero => point
  | .whole => if c.isDigit then some (addWhole .whole) else point
  | .point => if c.isDigit then some addFraction else none
  | .fraction => if c.isDigit then some addFraction else mark
  | .exponentMark =>
    if c = '-' then some (.number .exponentSign { l with exponent := some (true, 0) })
    else if c = '+' then some (.number .exponentSign l)
    else if c.isDigit then some addExponent else none
  | .exponentSign => if c.isDigit then some addExponent else none
  | .exponent => if c.isDigit then some addExponent else none

/-- One character further: the tokens it finishes and the mode after it. -/
def advance : Mode → Char → Option (List Token × Mode)
  | .between, c => (start c).map fun (t, m) => (t.toList, m)
  | .word [] t, c => (start c).map fun (u, m) => (t :: u.toList, m)
  | .word (w :: ws) t, c =>
    if c ≠ w then none else if ws = [] then some ([t], .between) else some ([], .word ws t)
  | .number part l, c =>
    match growNumber? part l c with
    | some m => some ([], m)
    | none =>
      match finishNumber? part l with
      | none => none
      | some t => (start c).map fun (u, m) => (t :: u.toList, m)
  | .string units, c =>
    if c = '"' then some ([.string units.reverse], .between)
    else if c = '\\' then some ([], .escape units)
    else if c < ' ' then none
    else some ([], .string (.char c :: units))
  | .escape units, c =>
    if c = 'u' then some ([], .code units 4 0)
    else (escaped? c).map fun e => ([], .string (.char e :: units))
  | .code units left value, c =>
    (hexValue? c).map fun d =>
      let value := 16 * value + d
      ([], if left ≤ 1 then .string (.code value :: units) else .code units (left - 1) value)

/-- The tokens of the rest of a text, after the tokens `done`, which stand latest first. -/
def scan (done : List Token) : Mode → List Char → Option (List Token)
  | .between, [] => some done.reverse
  | .number part l, [] => (finishNumber? part l).map fun t => (t :: done).reverse
  | _, [] => none
  | m, c :: cs =>
    match advance m c with
    | none => none
    | some (ts, m') => scan (ts.reverse ++ done) m' cs

def tokens? (cs : List Char) : Option (List Token) := scan [] .between cs

example : tokens? "[1.]".toList = none := by decide
example : tokens? "-0.50e+2 ".toList = some [.number ⟨true, [0], [5, 0], some (false, 2)⟩] := by
  decide

end Json
end Switchboard
