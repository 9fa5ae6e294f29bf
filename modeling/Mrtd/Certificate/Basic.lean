import Mrtd.Digest.Algorithm
import Mrtd.DistinguishedName
import Mrtd.Text.Blank
import Mrtd.Timestamp

/-!
Certificates as records: their role in the travel document PKI, their key, the extensions that the
profile cares about, and the questions that validation asks of them.
-/

namespace Mrtd

/-- The role of a certificate. -/
inductive CertificateType where
  /-- Country signing authority. -/
  | csca
  /-- Document signer. -/
  | dsc
  /-- Document signer outside the profile. -/
  | dscNc
  /-- Master list signer. -/
  | mlsc
deriving DecidableEq, Repr

namespace CertificateType

def name : CertificateType → String
  | csca => "CSCA"
  | dsc => "DSC"
  | dscNc => "DSC_NC"
  | mlsc => "MLSC"

def all : List CertificateType := [csca, dsc, dscNc, mlsc]

/-- Certificates of this role are expected to be authorities. -/
def isAuthority : CertificateType → Bool
  | csca => true
  | _ => false

/-- Reads the name of a role in any ASCII case, a hyphen counting as an underscore. -/
def ofName (s : String) : Except Error CertificateType :=
  let key := String.ofList
    (((Text.trimChars s.toList).map Char.toUpper).map fun c => if c == '-' then '_' else c)
  match all.find? (·.name == key) with
  | some type => .ok type
  | none => .error (.config ("unknown certificate type: " ++ key))

end CertificateType

/-- The state of a certificate at an instant. -/
inductive CertificateStatus where
  | active
  | expired
  | revoked
  | notYetValid
deriving DecidableEq, Repr

namespace CertificateStatus

def name : CertificateStatus → String
  | active => "ACTIVE"
  | expired => "EXPIRED"
  | revoked => "REVOKED"
  | notYetValid => "NOT_YET_VALID"

end CertificateStatus

/-- An elliptic curve named in the parameters of a key. -/
inductive Curve where
  | p256
  | p384
  /-- Any other parameters, by the dotted identifier. -/
  | other (oid : String)
deriving DecidableEq, Repr

namespace Curve

/-- The curve that an object identifier names. -/
def ofOid (oid : String) : Curve :=
  if oid = "1.2.840.10045.3.1.7" then p256
  else if oid = "1.3.132.0.34" then p384
  else other oid

end Curve

/-- The family of a public key. -/
inductive KeyAlgorithm where
  | rsa
  | rsaPss
  | ec (curve : Curve)
  | ed25519
  /-- Any other family, by the dotted identifier. -/
  | other (oid : String)
deriving DecidableEq, Repr

/-- A public key as its certificate holds it. -/
structure PublicKey where
  algorithm : KeyAlgorithm
  /-- The whole SubjectPublicKeyInfo. -/
  info : Bytes
  /-- The octets of the key itself: an RSAPublicKey or a curve point. -/
  key : Bytes
deriving DecidableEq, Repr

/-- The Basic Constraints extension. -/
structure BasicConstraints where
  ca : Bool
  pathLength : Option Nat
deriving DecidableEq, Repr

/-- The bits of the Key Usage extension that the profile cares about. -/
structure KeyUsage where
  digitalSignature : Bool
  nonRepudiation : Bool
  keyCertSign : Bool
  crlSign : Bool
deriving DecidableEq, Repr

/-- A certificate with the bookkeeping of its store. -/
structure Certificate where
  /-- The SHA-256 digest of the encoding, which is the identity of the certificate. -/
  fingerprint : String
  /-- The encoding. -/
  der : Bytes
  type : CertificateType
  subject : String
  issuer : String
  /-- In normal form. -/
  serial : String
  /-- The country of the subject, in capitals. -/
  country : Option String
  notBefore : Timestamp
  notAfter : Timestamp
  publicKey : PublicKey
  basicConstraints : Option BasicConstraints
  keyUsage : Option KeyUsage
  /-- In lower-case hexadecimal. -/
  subjectKeyId : Option String
  /-- Where the record came from. -/
  uploadId : Option String
  storedInLdap : Bool
deriving DecidableEq, Repr

namespace Certificate

/-- Records where a certificate came from. -/
def withProvenance (c : Certificate) (uploadId : String) (storedInLdap : Bool) : Certificate :=
  { c with uploadId := some uploadId, storedInLdap := storedInLdap }

/-- Subject and issuer are the same name. This says nothing about the signature. -/
def isSelfIssued (c : Certificate) : Bool :=
  DistinguishedName.same c.subject c.issuer

/-- The validity window contains the instant, both ends included. -/
def isValidAt (c : Certificate) (t : Timestamp) : Bool :=
  decide (c.notBefore ≤ t) && decide (t ≤ c.notAfter)

/-- The Basic Constraints assert an authority. -/
def assertsCa (c : Certificate) : Bool :=
  c.basicConstraints.any (·.ca)

/-- The state at an instant, revocation first. -/
def status (c : Certificate) (now : Timestamp) (revoked : Bool) : CertificateStatus :=
  if revoked then .revoked
  else if now < c.notBefore then .notYetValid
  else if c.notAfter < now then .expired
  else .active

/-- One line that names the certificate. -/
def display (c : Certificate) : String :=
  c.subject ++ " [" ++ c.type.name ++ "] serial=" ++ c.serial

end Certificate

end Mrtd
