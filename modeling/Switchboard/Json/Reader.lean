import Switchboard.Json.Value
import Switchboard.Json.Tree

/-!
# Switchboard.Json.Reader

From the tree of a JSON text to values. Here the limits hold: a number must be finite, a string
must spell proper text, and brackets nest at most `nestingLimit` deep. Of two members of one name
the later counts.
-/

namespace Switchboard
namespace Json

def nestingLimit : Nat := 127

/-! ## Numbers -/

namespace NumberLiteral

/-- Appends digits to a number while it fits in 64 bits; the digits that no longer do are left. -/
def takeFitting : Nat → List Nat → Nat × List Nat
  | n, [] => (n, [])
  | n, d :: ds => if n * 10 + d < twoPow 64 then takeFitting (n * 10 + d) ds else (n, d :: ds)

def powerOfTen (k : Nat) : Option Binary64 := Binary64.ofRatio false (tenPow k) 1

/-- `x * 10 ^ e` for `x` below `2 ^ 64`, by one multiplication or division with the double nearest
to the power of ten. Below `10 ^ -308` it takes two divisions, the first by `10 ^ 308`, and below
`10 ^ -616` nothing is left of `x`. -/
def scale (x : Binary64) (e : Int) : Option Binary64 :=
  if x.isZero then some x
  else if 308 < e then none
  else if 0 ≤ e then (powerOfTen e.toNat).bind x.mul
  else if -308 ≤ e then (powerOfTen (-e).toNat).bind x.div
  else if -616 ≤ e then
    (powerOfTen 308).bind fun p => (x.div p).bind fun y =>
      (powerOfTen (-e - 308).toNat).bind y.div
  else some (.zero x.negative)

/-- The number that a literal denotes; `none` if it is not finite. The digits that fit in 64 bits
are exact, later ones count by their place only. -/
def value? (l : NumberLiteral) : Option Number :=
  let (whole, dropped) := takeFitting 0 l.whole
  let float (significand : Nat) (e : Int) : Option Number :=
    (scale (.ofInt significand) e).map fun x => .float { x with negative := l.negative }
  if l.fraction = [] ∧ l.exponent = none then
    if dropped ≠ [] then float whole dropped.length
    else if l.negative = false then some (.integer whole)
    else if 0 < whole ∧ whole ≤ twoPow 63 then some (.integer (-(whole : Int)))
    else float whole 0
  else
    let (significand, unread) := takeFitting whole l.fraction
    let places := l.fraction.length - unread.length
    let (minus, magnitude) := l.exponent.getD (false, 0)
    let written : Int := if minus then -(magnitude : Int) else magnitude
    float significand (dropped.length - places + written)

end NumberLiteral

/-! ## Strings -/

def isHighSurrogate (u : Nat) : Bool := 0xD800 ≤ u && u < 0xDC00

def isLowSurrogate (u : Nat) : Bool := 0xDC00 ≤ u && u < 0xE000

/-- The text of a string's units, after the characters `done`, which stand latest first; `none` if
half of a pair stands alone. -/
def spell (done : List Char) : List StringUnit → Option (List Char)
  | [] => some done.reverse
  | .char c :: us => spell (c :: done) us
  | .code u :: us =>
    if isLowSurrogate u then none
    else if isHighSurrogate u then
      match us with
      | .code v :: us' =>
        if isLowSurrogate v then
          spell (Char.ofNat (0x10000 + (u - 0xD800) * 0x400 + (v - 0xDC00)) :: done) us'
        else none
      | _ => none
    else spell (Char.ofNat u :: done) us

def text? (units : List StringUnit) : Option String :=
  (spell [] units).map String.ofList

/-! ## Values -/

/-- The value of a tree in which at most `depth` brackets nest. -/
def Tree.value? : (depth : Nat) → Tree → Option Json
  | _, .null => some .null
  | _, .bool b => some (.bool b)
  | _, .number l => l.value?.map .number
  | _, .string us => (Json.text? us).map .string
  | 0, .array _ => none
  | 0, .object _ => none
  | d + 1, .array items => (items.mapM (Tree.value? d)).map .array
  | d + 1, .object members =>
    (members.mapM fun (us, t) =>
      (Json.text? us).bind fun name => (Tree.value? d t).map fun v => (name, v)).map ofMembers

def parse? (s : String) : Option Json :=
  (Tree.ofChars? s.toList).bind (Tree.value? nestingLimit)

end Json
end Switchboard
