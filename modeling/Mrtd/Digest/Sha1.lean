import Mrtd.Digest.Padding

/-!
The SHA-1 digest. It is kept for data group tables and signatures that still use it.
-/

namespace Mrtd.Digest.Sha1

/-- The chaining value and, during a block, the working variables. -/
structure State where
  a : UInt32
  b : UInt32
  c : UInt32
  d : UInt32
  e : UInt32
deriving DecidableEq, Repr

/-- Rotation to the left by a number below the word size. -/
def rotl (x n : UInt32) : UInt32 :=
  (x <<< n) ||| (x >>> (32 - n))

/-- The next schedule word; the words so far are given with the latest first. -/
def nextWord (words : List UInt32) : UInt32 :=
  rotl (words.getD 2 0 ^^^ words.getD 7 0 ^^^ words.getD 13 0 ^^^ words.getD 15 0) 1

/-- Extends the schedule by a number of words. -/
def extend : Nat → List UInt32 → List UInt32
  | 0, words => words
  | n + 1, words => extend n (nextWord words :: words)

/-- The words of a block, first octet most significant. -/
def blockWords (block : Bytes) : List UInt32 :=
  (blocks 4 16 block).map fun b => UInt32.ofNat b.toNat

/-- The Boolean function and the constant of a round. -/
def stage (round : Nat) (x y z : UInt32) : UInt32 × UInt32 :=
  if round < 20 then ((x &&& y) ^^^ ((~~~ x) &&& z), 0x5a827999)
  else if round < 40 then (x ^^^ y ^^^ z, 0x6ed9eba1)
  else if round < 60 then ((x &&& y) ^^^ (x &&& z) ^^^ (y &&& z), 0x8f1bbcdc)
  else (x ^^^ y ^^^ z, 0xca62c1d6)

/-- One round with its schedule word. -/
def round (s : State) (index : Nat) (w : UInt32) : State :=
  let (f, k) := stage index s.b s.c s.d
  ⟨rotl s.a 5 + f + s.e + k + w, s.a, rotl s.b 30, s.c, s.d⟩

/-- The rounds from `index` on. -/
def rounds (s : State) (index : Nat) : List UInt32 → State
  | [] => s
  | w :: rest => rounds (round s index w) (index + 1) rest

/-- Folds one block into the chaining value. -/
def compress (s : State) (block : Bytes) : State :=
  let r := rounds s 0 (extend 64 (blockWords block).reverse).reverse
  ⟨s.a + r.a, s.b + r.b, s.c + r.c, s.d + r.d, s.e + r.e⟩

/-- The SHA-1 digest. -/
def sha1 (message : Bytes) : Bytes :=
  let s := (paddedBlocks 64 8 message).foldl compress
    ⟨0x67452301, 0xefcdab89, 0x98badcfe, 0x10325476, 0xc3d2e1f0⟩
  [s.a, s.b, s.c, s.d, s.e].flatMap fun w => Bytes.ofNat 4 w.toNat

end Mrtd.Digest.Sha1
