/-!
# Switchboard.Uuid.Sha1

The SHA-1 digest of a list of bytes: the message is padded to blocks of sixteen words, and each
block is mixed into a state of five words in eighty rounds. Words have 32 bits and wrap.
-/

namespace Switchboard
namespace Sha1

structure Digest where
  a : UInt32
  b : UInt32
  c : UInt32
  d : UInt32
  e : UInt32
deriving DecidableEq, Repr

def initial : Digest := ⟨0x67452301, 0xEFCDAB89, 0x98BADCFE, 0x10325476, 0xC3D2E1F0⟩

def Digest.add (x y : Digest) : Digest :=
  ⟨x.a + y.a, x.b + y.b, x.c + y.c, x.d + y.d, x.e + y.e⟩

def rotate (w : UInt32) (n : UInt32) : UInt32 := (w <<< n) ||| (w >>> (32 - n))

/-- The `count` low bytes of a number, most significant first. -/
def bytesOf (n count : Nat) : List UInt8 :=
  (List.range count).reverse.map fun i => UInt8.ofNat (n >>> (8 * i))

/-- The message, a one bit, zeros up to the last eight bytes of a block, and the length in bits. -/
def pad (message : List UInt8) : List UInt8 :=
  let zeros := (119 - message.length % 64) % 64
  message ++ 0x80 :: List.replicate zeros 0 ++ bytesOf (8 * message.length) 8

/-- Four bytes are a word; fewer than four are dropped. -/
def toWords : List UInt8 → List UInt32
  | a :: b :: c :: d :: rest =>
    (a.toUInt32 <<< 24 ||| b.toUInt32 <<< 16 ||| c.toUInt32 <<< 8 ||| d.toUInt32) :: toWords rest
  | _ => []

/-- The next word of a schedule whose last sixteen words are given, latest first. -/
def nextWord (latest : List UInt32) : UInt32 :=
  let w (i : Nat) : UInt32 := (latest[i]?).getD 0
  rotate (w 2 ^^^ w 7 ^^^ w 13 ^^^ w 15) 1

def extend : Nat → List UInt32 → List UInt32
  | 0, ws => ws
  | n + 1, ws => extend n (nextWord ws :: ws)

/-- One round with the word `w`; `t` counts the rounds from zero. -/
def round (s : Digest) (t : Nat) (w : UInt32) : Digest :=
  let (f, k) : UInt32 × UInt32 :=
    if t < 20 then ((s.b &&& s.c) ||| (~~~s.b &&& s.d), 0x5A827999)
    else if t < 40 then (s.b ^^^ s.c ^^^ s.d, 0x6ED9EBA1)
    else if t < 60 then ((s.b &&& s.c) ||| (s.b &&& s.d) ||| (s.c &&& s.d), 0x8F1BBCDC)
    else (s.b ^^^ s.c ^^^ s.d, 0xCA62C1D6)
  ⟨rotate s.a 5 + f + s.e + k + w, s.a, rotate s.b 30, s.c, s.d⟩

def rounds : Digest → Nat → List UInt32 → Digest
  | s, _, [] => s
  | s, t, w :: ws => rounds (round s t w) (t + 1) ws

def mix (s : Digest) (block : List UInt32) : Digest :=
  s.add (rounds s 0 (extend 64 block.reverse).reverse)

/-- Mixes in the blocks of the words, at most `n` of them. -/
def mixAll : Nat → Digest → List UInt32 → Digest
  | 0, s, _ => s
  | n + 1, s, ws => mixAll n (mix s (ws.take 16)) (ws.drop 16)

def digest (message : List UInt8) : Digest :=
  let words := toWords (pad message)
  mixAll (words.length / 16) initial words

def Digest.bytes (s : Digest) : List UInt8 :=
  [s.a, s.b, s.c, s.d, s.e].flatMap fun w => bytesOf w.toNat 4

end Sha1
end Switchboard
