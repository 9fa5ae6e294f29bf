import Mrtd.Digest.Sha1
import Mrtd.Digest.Sha256
import Mrtd.Digest.Sha512
import Mrtd.Error

/-!
The digest algorithms that travel documents may use for data group tables and signatures.
-/

namespace Mrtd

/-- A digest algorithm. -/
inductive DigestAlgorithm where
  | sha1
  | sha224
  | sha256
  | sha384
  | sha512
deriving DecidableEq, Repr

namespace DigestAlgorithm

/-- The registered object identifier, dotted. -/
def oid : DigestAlgorithm → String
  | sha1 => "1.3.14.3.2.26"
  | sha224 => "2.16.840.1.101.3.4.2.4"
  | sha256 => "2.16.840.1.101.3.4.2.1"
  | sha384 => "2.16.840.1.101.3.4.2.2"
  | sha512 => "2.16.840.1.101.3.4.2.3"

def all : List DigestAlgorithm :=
  [sha1, sha224, sha256, sha384, sha512]

/-- The algorithm that an object identifier names. -/
def ofOid (oid : String) : Except Error DigestAlgorithm :=
  match all.find? (·.oid == oid) with
  | some algorithm => .ok algorithm
  | none => .error (.unsupportedAlgorithm ("digest algorithm " ++ oid))

def name : DigestAlgorithm → String
  | sha1 => "SHA-1"
  | sha224 => "SHA-224"
  | sha256 => "SHA-256"
  | sha384 => "SHA-384"
  | sha512 => "SHA-512"

/-- The name without the hyphen. -/
def shortName : DigestAlgorithm → String
  | sha1 => "SHA1"
  | sha224 => "SHA224"
  | sha256 => "SHA256"
  | sha384 => "SHA384"
  | sha512 => "SHA512"

/-- The length of a digest in octets. -/
def outputLength : DigestAlgorithm → Nat
  | sha1 => 20
  | sha224 => 28
  | sha256 => 32
  | sha384 => 48
  | sha512 => 64

/-- The digest of an octet string. -/
def digest : DigestAlgorithm → Bytes → Bytes
  | sha1 => Digest.Sha1.sha1
  | sha224 => Digest.Sha256.sha224
  | sha256 => Digest.Sha256.sha256
  | sha384 => Digest.Sha512.sha384
  | sha512 => Digest.Sha512.sha512

end DigestAlgorithm

/-- The identity of a certificate or revocation list: the SHA-256 digest of its octets, in hex. -/
def fingerprintOf (b : Bytes) : String :=
  (Digest.Sha256.sha256 b).toHex

end Mrtd
