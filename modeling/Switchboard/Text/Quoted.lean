import Switchboard.Text.Combining
import Switchboard.Text.Hidden
import Switchboard.Text.Unassigned

/-!
# Switchboard.Text.Quoted

Text in quotes for a person to read. What would not show as itself is escaped: the quote, the
backslash, what is hidden, what combines with the character before it, and what is unassigned.
-/

namespace Switchboard
namespace Text

def quotedChar (c : Char) : List Char :=
  match c with
  | '"' => ['\\', '"']
  | '\\' => ['\\', '\\']
  | '\n' => ['\\', 'n']
  | '\r' => ['\\', 'r']
  | '\t' => ['\\', 't']
  | '\x00' => ['\\', '0']
  | c =>
    if isHidden c || isCombining c || isUnassigned c then
      ['\\', 'u', '\x7b'] ++ Nat.toDigits 16 c.toNat ++ ['\x7d']
    else [c]

def quoted (s : String) : String :=
  String.ofList ('"' :: s.toList.flatMap quotedChar ++ ['"'])

example : quoted "a\"\u0301" = "\"a\\\"\\u\x7b301\x7d\"" := by decide +kernel

end Text
end Switchboard
