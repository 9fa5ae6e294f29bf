import Mrtd.Bytes

/-!
Merkle–Damgård padding: a message followed by the octet `80`, zeros, and its length in bits, cut
into blocks of equal size.
-/

namespace Mrtd.Digest

/-- Cuts an octet string into pieces of `size` octets; the first argument bounds their number. -/
def blocks (size : Nat) : Nat → Bytes → List Bytes
  | 0, _ => []
  | _ + 1, [] => []
  | bound + 1, b => b.take size :: blocks size bound (b.drop size)

/-- The padded message: a multiple of `blockSize` octets whose last `lengthSize` octets hold the
length of the message in bits. -/
def pad (blockSize lengthSize : Nat) (message : Bytes) : Bytes :=
  let used := (message.length + 1 + lengthSize) % blockSize
  message ++ 0x80 :: List.replicate ((blockSize - used) % blockSize) 0 ++
    Bytes.ofNat lengthSize (8 * message.length)

/-- The blocks of the padded message. -/
def paddedBlocks (blockSize lengthSize : Nat) (message : Bytes) : List Bytes :=
  let padded := pad blockSize lengthSize message
  blocks blockSize padded.length padded

end Mrtd.Digest
