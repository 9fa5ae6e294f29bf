import Mrtd.Der.Element
import Mrtd.Digest.Algorithm
import Mrtd.Signature.Modular

/-!
RSA signatures in the two encodings in use: version 1.5 padding, which fixes every octet of the
encoded message, and the probabilistic encoding with a salt as long as the digest.
-/

namespace Mrtd.Rsa

/-- A public key: modulus and exponent. -/
structure Key where
  modulus : Nat
  exponent : Nat
deriving DecidableEq, Repr

/-- The number of binary digits. -/
def bitLength (n : Nat) : Nat :=
  if n = 0 then 0 else n.log2 + 1

/-- The number of octets that the modulus takes. -/
def Key.size (k : Key) : Nat :=
  (bitLength k.modulus + 7) / 8

/-- Reads a key whose modulus is odd and takes, in whole octets, `minBits` to 8192 bits, and whose
exponent is odd, at least three and below 2^33. -/
def Key.decode? (minBits : Nat) (b : Bytes) : Option Key := do
  let (modulus, exponent) ← Der.positivePair? b
  let k : Key := ⟨modulus, exponent⟩
  if modulus % 2 = 1 ∧ minBits ≤ 8 * k.size ∧ bitLength modulus ≤ 8192 ∧
      exponent % 2 = 1 ∧ 3 ≤ exponent ∧ exponent < Nat.pow 2 33 then
    some k
  else none

/-- The encoded message that a signature stands for, as long as the modulus. -/
def Key.recover? (k : Key) (signature : Bytes) : Option Bytes :=
  let s := Bytes.toNat signature
  if signature.length = k.size ∧ 0 < s ∧ s < k.modulus then
    some (Bytes.ofNat k.size (Modular.pow k.modulus s k.exponent))
  else none

/-- The encoded digest information in front of a digest. -/
def digestInfo : DigestAlgorithm → Bytes
  | .sha1 =>
      [0x30, 0x21, 0x30, 0x09, 0x06, 0x05, 0x2b, 0x0e, 0x03, 0x02, 0x1a, 0x05, 0x00, 0x04, 0x14]
  | .sha224 => sha2 0x2d 0x04 0x1c
  | .sha256 => sha2 0x31 0x01 0x20
  | .sha384 => sha2 0x41 0x02 0x30
  | .sha512 => sha2 0x51 0x03 0x40
where
  /-- The algorithms of one family differ in the lengths and the last arc. -/
  sha2 (total arc length : UInt8) : Bytes :=
    [0x30, total, 0x30, 0x0d, 0x06, 0x09, 0x60, 0x86, 0x48, 0x01, 0x65, 0x03, 0x04, 0x02, arc, 0x05,
      0x00, 0x04, length]

/-- The version 1.5 encoding of a message in `size` octets. -/
def paddedDigest (size : Nat) (digest : DigestAlgorithm) (message : Bytes) : Bytes :=
  let tail := digestInfo digest ++ digest.digest message
  [0x00, 0x01] ++ List.replicate (size - tail.length - 3) 0xFF ++ 0x00 :: tail

/-- Verifies a version 1.5 signature under an encoded key. -/
def verifyPkcs1 (minBits : Nat) (digest : DigestAlgorithm) (key message signature : Bytes) : Bool :=
  match Key.decode? minBits key with
  | some k => k.recover? signature == some (paddedDigest k.size digest message)
  | none => false

/-- The mask of `length` octets grown from a seed. -/
def mask (digest : DigestAlgorithm) (seed : Bytes) (length : Nat) : Bytes :=
  ((List.range (length / digest.outputLength + 1)).flatMap fun i =>
    digest.digest (seed ++ Bytes.ofNat 4 i)).take length

/-- Checks a probabilistic encoding whose first octet uses the bits of `topMask` only. -/
def checkPss (digest : DigestAlgorithm) (topMask : Nat) (encoded message : Bytes) : Bool :=
  let hashLength := digest.outputLength
  let blockLength := encoded.length - hashLength - 1
  if encoded.length < 2 * hashLength + 2 then false
  else
    let masked := encoded.take blockLength
    let hash := (encoded.drop blockLength).take hashLength
    let block := Bytes.xor masked (mask digest hash blockLength)
    let block := match block with
      | [] => []
      | first :: rest => UInt8.ofNat (first.toNat % (topMask + 1)) :: rest
    let salt := block.drop (blockLength - hashLength)
    encoded.getLast? == some 0xBC &&
      (masked.headD 0).toNat ≤ topMask &&
      block.take (blockLength - hashLength) ==
        List.replicate (blockLength - hashLength - 1) 0 ++ [1] &&
      digest.digest (List.replicate 8 0 ++ digest.digest message ++ salt) == hash

/-- Verifies a probabilistic signature under an encoded key of at least 2048 bits. -/
def verifyPss (digest : DigestAlgorithm) (key message signature : Bytes) : Bool :=
  match Key.decode? 2048 key with
  | none => false
  | some k =>
      match k.recover? signature with
      | none => false
      | some encoded =>
          let used := (bitLength k.modulus - 1) % 8
          if used = 0 then
            match encoded with
            | 0 :: encoded => checkPss digest 0xFF encoded message
            | _ => false
          else checkPss digest (Nat.pow 2 used - 1) encoded message

end Mrtd.Rsa
