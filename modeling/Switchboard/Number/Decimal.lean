import Switchboard.Number.Binary64

/-!
# Switchboard.Number.Decimal

Numbers written in decimal: how a plain numeral is read, and the double nearest to it.
-/

namespace Switchboard

/-- The value `± coefficient * 10 ^ exponent`. -/
structure Decimal where
  negative : Bool
  coefficient : Nat
  exponent : Int
deriving DecidableEq, Repr

namespace Decimal

def digitCount (n : Nat) : Nat := (Nat.toDigits 10 n).length

def digitsValue (ds : List Char) : Nat :=
  ds.foldl (fun n c => 10 * n + (c.toNat - '0'.toNat)) 0

/-- The double nearest to the value, a tie to the even one; `none` if that is not finite. Values
of 10^309 and more are out of range, and those below 10^-324 round to zero, before any power of
ten is formed. -/
def toBinary64? (d : Decimal) : Option Binary64 :=
  let top := (digitCount d.coefficient : Int) + d.exponent
  if d.coefficient = 0 ∨ top ≤ -324 then some (.zero d.negative)
  else if 310 ≤ top then none
  else
    Binary64.ofRatio d.negative (d.coefficient * tenPow d.exponent.toNat)
      (tenPow (-d.exponent).toNat)

/-- The exponent that ends a numeral: nothing, or `e`, an optional sign and at least a digit. -/
def readExponent : List Char → Option Int
  | [] => some 0
  | e :: rest =>
    if e = 'e' ∨ e = 'E' then
      match rest with
      | '-' :: ds => (digits? ds).map fun n => -(n : Int)
      | '+' :: ds => (digits? ds).map Int.ofNat
      | ds => (digits? ds).map Int.ofNat
    else none
where
  /-- A nonempty run of digits and nothing else. -/
  digits? (ds : List Char) : Option Nat :=
    if ds ≠ [] ∧ ds.all Char.isDigit then some (digitsValue ds) else none

/-- A numeral without its sign: digits with at most one point among them or at an end, at least
one digit, and perhaps an exponent. -/
def readUnsigned (negative : Bool) (cs : List Char) : Option Decimal :=
  let whole := cs.takeWhile Char.isDigit
  let (fraction, rest) :=
    match cs.dropWhile Char.isDigit with
    | '.' :: r => (r.takeWhile Char.isDigit, r.dropWhile Char.isDigit)
    | r => ([], r)
  if whole = [] ∧ fraction = [] then none
  else (readExponent rest).map fun e =>
    ⟨negative, digitsValue (whole ++ fraction), e - fraction.length⟩

def read : List Char → Option Decimal
  | '-' :: cs => readUnsigned true cs
  | '+' :: cs => readUnsigned false cs
  | cs => readUnsigned false cs

example : read "+7".toList = some ⟨false, 7, 0⟩ := by decide
example : read "-.5e+2".toList = some ⟨true, 5, 1⟩ := by decide
example : read "5.".toList = some ⟨false, 5, 0⟩ := by decide
example : read ".".toList = none ∧ read "1e".toList = none ∧ read "1_0".toList = none := by decide

end Decimal
end Switchboard
