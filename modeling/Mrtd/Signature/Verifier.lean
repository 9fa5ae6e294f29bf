import Mrtd.Certificate.Reader
import Mrtd.Signature.Algorithm
import Mrtd.Signature.Ed25519

/-!
The capability to check signatures. A verdict of `false` means that a signature does not verify; an
error means that it could not be evaluated.
-/

namespace Mrtd

open Asn1

/-- Checks the signatures of certificates and of signed content. -/
structure SignatureVerifier where
  /-- Does the key of the second certificate verify the signature on the first? -/
  certificate : Certificate → Certificate → Except Error Bool
  /-- Does a key verify a signature, the last argument, over a message? -/
  content : PublicKey → SignatureAlgorithm → Bytes → Bytes → Except Error Bool

/-- The parameters of probabilistic padding as a certificate states them. -/
structure PssParameters where
  digest : ObjectIdentifier
  maskAlgorithm : Option Reader.Algorithm
  saltLength : Nat
  trailer : Nat
deriving DecidableEq, Repr

namespace PssParameters

/-- The digest that is meant when none is named: SHA-1. -/
def sha1 : ObjectIdentifier := ⟨[0x2B, 0x0E, 0x03, 0x02, 0x1A]⟩

/-- The mask generation function that is supported. -/
def mgf1 : ObjectIdentifier := ⟨[0x2A, 0x86, 0x48, 0x86, 0xF7, 0x0D, 0x01, 0x01, 0x08]⟩

/-- Reads the contents of an element with a context tag, if the next element is one. -/
def tagged {α : Type} (number : Nat) (r : Asn1.Reader α) : Asn1.Reader (Option α) := do
  let b ← Reader.remaining
  if b.isEmpty then pure none
  else
    let (e, rest) ← Reader.expect (readElement b)
    if e.header.tagClass = .contextSpecific ∧ e.number = number then
      set rest
      some <$> Reader.within r e.content
    else pure none

/-- Reads the fields, each of which has a default. -/
def reader : Asn1.Reader PssParameters := do
  let digest ← tagged 0 Reader.algorithm
  let mask ← tagged 1 Reader.algorithm
  let salt ← tagged 2 Reader.unsigned32
  let trailer ← tagged 3 Reader.unsigned32
  pure ⟨(digest.map (·.oid)).getD sha1, mask, salt.getD 20, trailer.getD 1⟩

/-- The parameters of an algorithm identifier. -/
def ofAlgorithm? (a : Reader.Algorithm) : Option PssParameters := do
  let e ← a.parameters
  if e.number = TagNumber.sequence then reader.first? e.content else none

/-- The mask generation function and its digest. -/
def mask? (p : PssParameters) : Option (ObjectIdentifier × ObjectIdentifier) :=
  match p.maskAlgorithm with
  | none => some (mgf1, sha1)
  | some a => do
      let e ← a.parameters
      let digest ← Reader.objectIdentifier.first? e.content
      some (a.oid, digest)

/-- The digest of the scheme. Only the one mask function with the same digest and a salt as long as
the digest is accepted. -/
def digest? (p : PssParameters) : Except Error DigestAlgorithm := do
  let digest ← DigestAlgorithm.ofOid p.digest.dotted
  match p.mask? with
  | none => throw (.certificateParse "RSASSA-PSS mask generation: malformed parameters")
  | some (function, maskOid) =>
      let maskDigest ← DigestAlgorithm.ofOid maskOid.dotted
      if function.dotted ≠ mgf1.dotted ∨ maskDigest ≠ digest ∨ p.saltLength ≠ digest.outputLength ∨
          p.trailer ≠ 1 then
        throw (.unsupportedAlgorithm
          ("RSASSA-PSS with " ++ digest.name ++ ", salt length " ++ toString p.saltLength))
      else pure digest

end PssParameters

namespace SignatureVerifier

/-- The identifiers of certificate signature algorithms, by their octets. -/
def sha1WithRsa : ObjectIdentifier := ⟨[0x2A, 0x86, 0x48, 0x86, 0xF7, 0x0D, 0x01, 0x01, 0x05]⟩
def sha1WithRsaOiw : ObjectIdentifier := ⟨[0x2B, 0x0E, 0x03, 0x02, 0x1D]⟩
def sha256WithRsa : ObjectIdentifier := ⟨[0x2A, 0x86, 0x48, 0x86, 0xF7, 0x0D, 0x01, 0x01, 0x0B]⟩
def sha384WithRsa : ObjectIdentifier := ⟨[0x2A, 0x86, 0x48, 0x86, 0xF7, 0x0D, 0x01, 0x01, 0x0C]⟩
def sha512WithRsa : ObjectIdentifier := ⟨[0x2A, 0x86, 0x48, 0x86, 0xF7, 0x0D, 0x01, 0x01, 0x0D]⟩
def ecdsaWithSha256 : ObjectIdentifier := ⟨[0x2A, 0x86, 0x48, 0xCE, 0x3D, 0x04, 0x03, 0x02]⟩
def ecdsaWithSha384 : ObjectIdentifier := ⟨[0x2A, 0x86, 0x48, 0xCE, 0x3D, 0x04, 0x03, 0x03]⟩
def ed25519 : ObjectIdentifier := ⟨[0x2B, 0x65, 0x70]⟩

/-- The identifier of probabilistic padding, dotted. -/
def rsassaPss : String := "1.2.840.113549.1.1.10"

/-- The curve that the parameters of a key name. -/
def curveOf? (key : Reader.Algorithm) : Option EllipticCurve := do
  let e ← key.parameters
  if e.content = [0x2A, 0x86, 0x48, 0xCE, 0x3D, 0x03, 0x01, 0x07] then some .p256
  else if e.content = [0x2B, 0x81, 0x04, 0x00, 0x22] then some .p384
  else none

/-- Verifies a signature by its algorithm's identifier; `none` when that is not supported. Here RSA
keys of 1024 bits are enough for SHA-1. -/
def verifyNamed? (oid : ObjectIdentifier) (keyAlgorithm : Reader.Algorithm)
    (key message signature : Bytes) : Option Bool :=
  let rsa (minBits : Nat) (digest : DigestAlgorithm) : Option Bool :=
    some (Rsa.verifyPkcs1 minBits digest key message signature)
  let ecdsa (digest : DigestAlgorithm) : Option Bool :=
    (curveOf? keyAlgorithm).map fun curve => curve.verify key (digest.digest message) signature
  if oid = sha1WithRsa ∨ oid = sha1WithRsaOiw then rsa 1024 .sha1
  else if oid = sha256WithRsa then rsa 2048 .sha256
  else if oid = sha384WithRsa then rsa 2048 .sha384
  else if oid = sha512WithRsa then rsa 2048 .sha512
  else if oid = ecdsaWithSha256 then ecdsa .sha256
  else if oid = ecdsaWithSha384 then ecdsa .sha384
  else if oid = ed25519 then some (Ed25519.verify key message signature)
  else none

/-- Verifies signed content under a key. -/
def verifyContent (key : PublicKey) (algorithm : SignatureAlgorithm) (message signature : Bytes) :
    Except Error Bool := do
  let scheme ← SignatureScheme.ofAlgorithm algorithm key.algorithm
  pure (scheme.verify key.key message signature)

/-- Verifies a certificate with probabilistic padding. -/
def verifyPss (subject : EncodedCertificate) (issuer : Certificate) : Except Error Bool := do
  let some parameters := PssParameters.ofAlgorithm? subject.signatureAlgorithm
    | throw (.certificateParse "malformed RSASSA-PSS parameters")
  let digest ← parameters.digest?
  verifyContent issuer.publicKey (.rsaPss digest) subject.signed subject.signature

/-- Verifies a certificate under the key of its issuer. The algorithm is the one named beside the
signature. -/
def verifyCertificate (subject issuer : Certificate) : Except Error Bool := do
  let some encoded := EncodedCertificate.reader.first? subject.der
    | throw (.certificateParse CertificateFault.malformed.message)
  let oid := encoded.signatureAlgorithm.oid
  if oid.dotted = rsassaPss then verifyPss encoded issuer
  else
    let some (keyAlgorithm, key) := PublicKey.reader.first? issuer.publicKey.info
      | throw (.certificateParse "issuer public key: malformed encoding")
    match verifyNamed? oid keyAlgorithm key.key encoded.signed encoded.signature with
    | some verdict => pure verdict
    | none => throw (.unsupportedAlgorithm ("certificate signature " ++ oid.dotted))

/-- The verifier that evaluates signatures. -/
def standard : SignatureVerifier := ⟨verifyCertificate, verifyContent⟩

end SignatureVerifier

end Mrtd
