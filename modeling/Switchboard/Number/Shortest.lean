import Switchboard.Number.Decimal

/-!
# Switchboard.Number.Shortest

The shortest decimal that reads back as a given double, and the text made of it.

The reals that round to a double form an interval around it, closed when the significand is even.
For one digit, two digits and so on, the two neighbours of the double on that decimal grid are
tested against the interval. The first grid with a hit wins, and of two hits the nearer one.
-/

namespace Switchboard
namespace Binary64

/-- The exponent `e` with `10 ^ e ≤ num / den < 10 ^ (e + 1)`. -/
def ratioLog10 (num den : Nat) : Int :=
  if den ≤ num then Decimal.digitCount (num / den) - 1
  else -(Decimal.digitCount ((den + num - 1) / num - 1) : Int)

/-- The best decimal on the grid `10 ^ g` that rounds to the magnitude of `x`, as a multiple of the
grid's step. All quantities are quarters of the last binary place, scaled to be natural. -/
def onGrid (x : Binary64) (g : Int) : Option Nat :=
  let q := x.exponent - 2
  let unit := twoPow q.toNat * tenPow (-g).toNat
  let step := twoPow (-q).toNat * tenPow g.toNat
  let value := 4 * x.significand * unit
  let gapBelow := if x.significand = twoPow 52 ∧ -1074 < x.exponent then 1 else 2
  let low := value - gapBelow * unit
  let high := value + 2 * unit
  let closed := x.significand % 2 = 0
  let fits (c : Nat) : Bool :=
    if closed then low ≤ c * step && c * step ≤ high else low < c * step && c * step < high
  let below := value / step
  let above := below + 1
  match fits below, fits above with
  | false, false => none
  | true, false => some below
  | false, true => some above
  | true, true =>
    let down := value - below * step
    let up := above * step - value
    if down < up then some below
    else if up < down then some above
    else some (below + below % 2)

/-- The first hit among the grids of `k`, `k + 1`, … digits; `top` is the exponent of the leading
digit. -/
def searchGrids (x : Binary64) (top : Int) : Nat → Nat → Option (Nat × Int)
  | _, 0 => none
  | k, left + 1 =>
    let g := top - k + 1
    match onGrid x g with
    | some c => some (c, g)
    | none => searchGrids x top (k + 1) left

/-- The coefficient and the exponent of the shortest decimal; seventeen digits always suffice. -/
def shortest (x : Binary64) : Nat × Int :=
  (searchGrids x (ratioLog10 x.num x.den) 1 17).getD (0, 0)

def trimZeros (ds : List Char) : List Char :=
  (ds.reverse.dropWhile (· = '0')).reverse

/-- Lays out significant digits whose first one stands for `10 ^ e`: positional from `10 ^ -5` to
below `10 ^ 16`, always with a point, and with a signed exponent outside. -/
def layOut (ds : List Char) (e : Int) : List Char :=
  if -5 ≤ e ∧ e < 0 then
    '0' :: '.' :: List.replicate (-e - 1).toNat '0' ++ ds
  else if 0 ≤ e ∧ e ≤ 15 then
    let n := e.toNat + 1
    if ds.length ≤ n then ds ++ List.replicate (n - ds.length) '0' ++ ['.', '0']
    else ds.take n ++ '.' :: ds.drop n
  else
    let mantissa := match ds with
      | d :: r => if r = [] then [d] else d :: '.' :: r
      | [] => []
    mantissa ++ 'e' :: (if e < 0 then '-' else '+') :: Nat.toDigits 10 e.natAbs

def text (x : Binary64) : String :=
  let body :=
    if x.isZero then ['0', '.', '0']
    else
      let (c, g) := x.shortest
      let ds := Nat.toDigits 10 c
      layOut (trimZeros ds) (g + ds.length - 1)
  String.ofList (if x.negative then '-' :: body else body)

end Binary64
end Switchboard
