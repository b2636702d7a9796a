/-!
# Switchboard.Text.Ranges

Sets of characters as ranges of code points, which is how a property of Unicode is tabulated. The
tables are those of Unicode 17.0.
-/

namespace Switchboard
namespace Text

/-- Whether the code point of `c` lies in one of the ranges, both ends of which belong to it. -/
def inRanges (ranges : List (Nat × Nat)) (c : Char) : Bool :=
  ranges.any fun (first, last) => first ≤ c.toNat && c.toNat ≤ last

/-- Each range holds a character, and above the last character of a range at least one is left out
before the next range begins: a set has one such table. -/
def ascending : List (Nat × Nat) → Bool
  | [] => true
  | [r] => r.1 ≤ r.2
  | r :: s :: rest => r.1 ≤ r.2 && r.2 + 1 < s.1 && ascending (s :: rest)

end Text
end Switchboard
