/-!
# Switchboard.Text.Blank

White space in the sense of the Unicode property White_Space, which is wider than the four blanks
of ASCII, and trimming by it.
-/

namespace Switchboard
namespace Text

/-- The characters of the property White_Space. -/
def isBlank (c : Char) : Bool :=
  let n := c.toNat
  (0x09 ≤ n && n ≤ 0x0D) || n == 0x20 || n == 0x85 || n == 0xA0 || n == 0x1680 ||
    (0x2000 ≤ n && n ≤ 0x200A) || n == 0x2028 || n == 0x2029 || n == 0x202F || n == 0x205F ||
    n == 0x3000

def trim (cs : List Char) : List Char :=
  ((cs.dropWhile isBlank).reverse.dropWhile isBlank).reverse

example : trim "\u3000 7\u00a0".toList = ['7'] := by decide

end Text
end Switchboard
