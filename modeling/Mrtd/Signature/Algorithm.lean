import Mrtd.Certificate.Basic
import Mrtd.Signature.EllipticCurve
import Mrtd.Signature.Rsa

/-!
Signature algorithms of signed documents: a scheme paired with its digest.
-/

namespace Mrtd

/-- A signature algorithm. -/
inductive SignatureAlgorithm where
  /-- RSA with version 1.5 padding. -/
  | rsaPkcs1 (digest : DigestAlgorithm)
  /-- RSA with probabilistic padding, the mask grown with the same digest. -/
  | rsaPss (digest : DigestAlgorithm)
  /-- Elliptic curve signatures, encoded as a pair of numbers. -/
  | ecdsa (digest : DigestAlgorithm)
deriving DecidableEq, Repr

namespace SignatureAlgorithm

/-- The algorithm that an object identifier names. The bare identifiers of keys and of
probabilistic padding take the digest of the signer. -/
def ofOid (oid : String) (digest : DigestAlgorithm) : Except Error SignatureAlgorithm :=
  match oid with
  | "1.2.840.113549.1.1.1" => .ok (rsaPkcs1 digest)
  | "1.2.840.113549.1.1.5" => .ok (rsaPkcs1 .sha1)
  | "1.2.840.113549.1.1.14" => .ok (rsaPkcs1 .sha224)
  | "1.2.840.113549.1.1.11" => .ok (rsaPkcs1 .sha256)
  | "1.2.840.113549.1.1.12" => .ok (rsaPkcs1 .sha384)
  | "1.2.840.113549.1.1.13" => .ok (rsaPkcs1 .sha512)
  | "1.2.840.113549.1.1.10" => .ok (rsaPss digest)
  | "1.2.840.10045.2.1" => .ok (ecdsa digest)
  | "1.2.840.10045.4.1" => .ok (ecdsa .sha1)
  | "1.2.840.10045.4.3.1" => .ok (ecdsa .sha224)
  | "1.2.840.10045.4.3.2" => .ok (ecdsa .sha256)
  | "1.2.840.10045.4.3.3" => .ok (ecdsa .sha384)
  | "1.2.840.10045.4.3.4" => .ok (ecdsa .sha512)
  | _ => .error (.unsupportedAlgorithm ("signature algorithm " ++ oid))

def digest : SignatureAlgorithm → DigestAlgorithm
  | rsaPkcs1 d | rsaPss d | ecdsa d => d

def name : SignatureAlgorithm → String
  | rsaPkcs1 d => d.shortName ++ "withRSA"
  | rsaPss d => d.shortName ++ "withRSA/PSS"
  | ecdsa d => d.shortName ++ "withECDSA"

end SignatureAlgorithm

namespace KeyAlgorithm

/-- The wording of a curve in messages. -/
def curveText : Curve → String
  | .p256 => "P256"
  | .p384 => "P384"
  | .other oid => "Other(\"" ++ oid ++ "\")"

def display : KeyAlgorithm → String
  | rsa => "Rsa"
  | rsaPss => "RsaPss"
  | ec curve => "Ec(" ++ curveText curve ++ ")"
  | ed25519 => "Ed25519"
  | other oid => "Other(\"" ++ oid ++ "\")"

end KeyAlgorithm

/-- A signature scheme that can be evaluated, fitted to the family of a key. -/
inductive SignatureScheme where
  | rsaPkcs1 (minBits : Nat) (digest : DigestAlgorithm)
  | rsaPss (digest : DigestAlgorithm)
  | ecdsa (curve : EllipticCurve) (digest : DigestAlgorithm)
deriving DecidableEq, Repr

namespace SignatureScheme

/-- The scheme of an algorithm under a key of some family, where it is supported. RSA keys have at
least 2048 bits. -/
def ofAlgorithm (algorithm : SignatureAlgorithm) (key : KeyAlgorithm) :
    Except Error SignatureScheme :=
  match algorithm, key with
  | .rsaPkcs1 .sha1, .rsa => .ok (rsaPkcs1 2048 .sha1)
  | .rsaPkcs1 .sha256, .rsa => .ok (rsaPkcs1 2048 .sha256)
  | .rsaPkcs1 .sha384, .rsa => .ok (rsaPkcs1 2048 .sha384)
  | .rsaPkcs1 .sha512, .rsa => .ok (rsaPkcs1 2048 .sha512)
  | .rsaPss .sha256, .rsa | .rsaPss .sha256, .rsaPss => .ok (rsaPss .sha256)
  | .rsaPss .sha384, .rsa | .rsaPss .sha384, .rsaPss => .ok (rsaPss .sha384)
  | .rsaPss .sha512, .rsa | .rsaPss .sha512, .rsaPss => .ok (rsaPss .sha512)
  | .ecdsa .sha256, .ec .p256 => .ok (ecdsa .p256 .sha256)
  | .ecdsa .sha384, .ec .p256 => .ok (ecdsa .p256 .sha384)
  | .ecdsa .sha256, .ec .p384 => .ok (ecdsa .p384 .sha256)
  | .ecdsa .sha384, .ec .p384 => .ok (ecdsa .p384 .sha384)
  | _, _ => .error (.unsupportedAlgorithm (algorithm.name ++ " with " ++ key.display ++ " key"))

/-- Verifies a signature over a message under the octets of a key. -/
def verify (scheme : SignatureScheme) (key message signature : Bytes) : Bool :=
  match scheme with
  | rsaPkcs1 minBits digest => Rsa.verifyPkcs1 minBits digest key message signature
  | rsaPss digest => Rsa.verifyPss digest key message signature
  | ecdsa curve digest => curve.verify key (digest.digest message) signature

end SignatureScheme

end Mrtd
