import Switchboard.Number.Power

/-!
# Switchboard.Number.Binary64

Finite doubles as exact values: a sign, a natural significand and a power of two. Rounding,
multiplication and division are done on numerators and denominators in `Nat`, so nothing here
depends on the machine's floating point.
-/

namespace Switchboard

/-- The finite double `± significand * 2 ^ exponent`. Normal values keep their significand in
`[2^52, 2^53)`; zero and the subnormal values have the exponent `-1074`. -/
structure Binary64 where
  negative : Bool
  significand : Nat
  exponent : Int
deriving DecidableEq, Repr

namespace Binary64

def num (x : Binary64) : Nat := x.significand * twoPow x.exponent.toNat

def den (x : Binary64) : Nat := twoPow (-x.exponent).toNat

theorem den_pos (x : Binary64) : 0 < x.den := twoPow_pos _

def zero (negative : Bool) : Binary64 := ⟨negative, 0, -1074⟩

def isZero (x : Binary64) : Bool := x.significand == 0

def isPositive (x : Binary64) : Bool := !x.negative && !x.isZero

/-- At or above zero; both zeros are. -/
def isNonnegative (x : Binary64) : Bool := !x.negative || x.isZero

/-- `num / den` to the nearest natural number, a tie to the even one. -/
def roundHalfEven (num den : Nat) : Nat :=
  let q := num / den
  let r := num % den
  if 2 * r < den then q else if den < 2 * r then q + 1 else q + q % 2

/-- The greatest `e` with `2 ^ e ≤ num / den`, for positive `num` and `den`. -/
def ratioLog2 (num den : Nat) : Int :=
  let e : Int := (num.log2 : Int) - den.log2
  if den * twoPow e.toNat ≤ num * twoPow (-e).toNat then e else e - 1

/-- The double nearest to `± num / den`, a tie to the even significand; `none` beyond the greatest
finite double. -/
def ofRatio (negative : Bool) (num den : Nat) : Option Binary64 :=
  if num = 0 then
    some (zero negative)
  else
    let e := max (ratioLog2 num den - 52) (-1074)
    let m := roundHalfEven (num * twoPow (-e).toNat) (den * twoPow e.toNat)
    let x : Binary64 := if m = twoPow 53 then ⟨negative, twoPow 52, e + 1⟩ else ⟨negative, m, e⟩
    if x.exponent ≤ 971 then some x else none

/-- The double nearest to an integer of at most 64 bits. -/
def ofInt (i : Int) : Binary64 :=
  (ofRatio (i < 0) i.natAbs 1).getD (zero false)

def mul (x y : Binary64) : Option Binary64 :=
  ofRatio (x.negative != y.negative) (x.num * y.num) (x.den * y.den)

/-- The rounded quotient by a divisor other than zero. -/
def div (x y : Binary64) : Option Binary64 :=
  ofRatio (x.negative != y.negative) (x.num * y.den) (x.den * y.num)

/-- The magnitude to the nearest natural number, a half upwards. -/
def roundHalfAway (x : Binary64) : Nat :=
  (2 * x.num + x.den) / (2 * x.den)

def bits (x : Binary64) : Nat :=
  (if x.negative then twoPow 63 else 0) +
    if x.significand < twoPow 52 then x.significand
    else (x.exponent + 1075).toNat * twoPow 52 + (x.significand - twoPow 52)

example : (ofInt 1).bits = 0x3FF0000000000000 := by decide
example : (ofRatio true 1 10).map bits = some 0xBFB999999999999A := by decide
example : (ofRatio false 5 2).map roundHalfAway = some 3 := by decide

end Binary64
end Switchboard
