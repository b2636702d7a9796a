import Switchboard.Uuid.Sha1

/-!
# Switchboard.Uuid.Basic

Unique ids of 128 bits: those that are made from a name, and their text.
-/

namespace Switchboard

structure Uuid where
  value : BitVec 128
deriving DecidableEq, Repr

namespace Uuid

/-- The number that bytes spell, most significant first. -/
def ofBytes (bytes : List UInt8) : Uuid :=
  ⟨BitVec.ofNat 128 (bytes.foldl (fun n b => 256 * n + b.toNat) 0)⟩

/-- The `i`th hexadecimal digit from the end. -/
def digit (u : Uuid) (i : Nat) : Char := Nat.digitChar (u.value.extractLsb' (4 * i) 4).toNat

/-- The digits from the `first`th to just before the `last`th, both counted from the end. -/
def digits (u : Uuid) (first last : Nat) : List Char :=
  (List.range (first - last)).map fun i => u.digit (first - 1 - i)

/-- Lower-case digits in groups of eight, four, four, four and twelve. -/
def text (u : Uuid) : String :=
  String.ofList (u.digits 32 24 ++ '-' :: u.digits 24 20 ++ '-' :: u.digits 20 16 ++
    '-' :: u.digits 16 12 ++ '-' :: u.digits 12 0)

def oidNamespace : Uuid := ⟨0x6ba7b8129dad11d180b400c04fd430c8#128⟩

def mark : Nat → List UInt8 → List UInt8
  | _, [] => []
  | i, b :: bs =>
    (if i = 6 then (b &&& 0x0f) ||| 0x50 else if i = 8 then (b &&& 0x3f) ||| 0x80 else b)
      :: mark (i + 1) bs

/-- The id of a name in a namespace, version 5: a digest of both. -/
def ofName (space : Uuid) (name : String) : Uuid :=
  let message := Sha1.bytesOf space.value.toNat 16 ++ name.toUTF8.toList
  ofBytes (mark 0 ((Sha1.digest message).bytes.take 16))

/-- The number that hexadecimal digits spell, in either case. -/
def readDigits : Nat → List Char → Option Nat
  | n, [] => some n
  | n, c :: cs =>
    if c.isDigit then readDigits (16 * n + (c.toNat - '0'.toNat)) cs
    else if 'a' ≤ c ∧ c ≤ 'f' then readDigits (16 * n + (c.toNat - 'a'.toNat + 10)) cs
    else if 'A' ≤ c ∧ c ≤ 'F' then readDigits (16 * n + (c.toNat - 'A'.toNat + 10)) cs
    else none

/-- Reads thirty-two digits, in one run or grouped by hyphens. -/
def readBare? (cs : List Char) : Option Uuid :=
  let digits := cs.filter (· ≠ '-')
  let groups := ((String.ofList cs).splitOn "-").map String.length
  if digits.length = 32 ∧ (groups.length = 1 ∨ groups = [8, 4, 4, 4, 12]) then
    (readDigits 0 digits).map fun n => ⟨BitVec.ofNat 128 n⟩
  else none

/-- What a name of an id begins with, in either case. -/
def urnScheme : List Char := ['u', 'r', 'n', ':', 'u', 'u', 'i', 'd', ':']

/-- Reads an id: its digits bare, in braces or as a name in the scheme of ids. -/
def read? (s : String) : Option Uuid :=
  match s.toList with
  | '{' :: cs => if cs.getLast? = some '}' then readBare? cs.dropLast else none
  | cs =>
    if (cs.take urnScheme.length).map Char.toLower = urnScheme then
      readBare? (cs.drop urnScheme.length)
    else readBare? cs

end Uuid
end Switchboard
