import Mrtd.Asn1.Name
import Mrtd.Certificate.Basic
import Mrtd.SerialNumber
import Mrtd.Text.Pem

/-!
Reading certificates, from their binary encoding or in armour. The reader is tolerant: it takes the
leading element of its input, and the identity covers every octet given.
-/

namespace Mrtd

open Asn1

namespace Extension

/-- The identifiers of the extensions that are read. -/
def subjectKeyId : ObjectIdentifier := ⟨[0x55, 0x1D, 0x0E]⟩
def keyUsage : ObjectIdentifier := ⟨[0x55, 0x1D, 0x0F]⟩
def basicConstraints : ObjectIdentifier := ⟨[0x55, 0x1D, 0x13]⟩
def reasonCode : ObjectIdentifier := ⟨[0x55, 0x1D, 0x15]⟩

/-- The contents of a BOOLEAN. -/
def boolean? (e : Element) : Option Bool :=
  if e.number == TagNumber.boolean && !e.header.constructed then
    match e.content with
    | [0x00] => some false
    | [0xFF] => some true
    | _ => none
  else none

/-- The contents of an INTEGER that is not negative and fits in 32 bits. -/
def unsigned? (e : Element) : Option Nat :=
  if e.number == TagNumber.integer && !e.header.constructed then Reader.unsigned32? e.content
  else none

/-- One extension: its identifier and the octets of its value. -/
structure Raw where
  oid : ObjectIdentifier
  value : Bytes
deriving DecidableEq, Repr

/-- Reads the criticality, which holds whatever the one octet of its contents is. -/
def criticality : Asn1.Reader Unit := do
  let content ← Reader.primitive TagNumber.boolean
  Reader.ensure (content.length == 1)

/-- Reads one extension. The criticality is read and not kept. -/
def reader : Asn1.Reader Raw := Reader.sequence do
  let oid ← Reader.objectIdentifier
  let _ ← Reader.optional criticality
  let value ← Reader.primitive TagNumber.octetString
  pure ⟨oid, value⟩

/-- Reads a SEQUENCE of extensions, all of which must be readable. -/
def listReader : Asn1.Reader (List Raw) := Reader.sequence do
  let extensions ← Reader.all reader
  Reader.ensure (← Reader.remaining).isEmpty
  pure extensions

/-- Reads the extensions that end a structure, after the header of an element whose tag has the
given number. What follows that header must be the list and nothing else. -/
def trailing (number : Nat) : Asn1.Reader (List Raw) := do
  if (← Reader.remaining).isEmpty then pure []
  else
    let header ← Reader.ofOption readHeader
    Reader.ensure (header.number == number)
    let extensions ← listReader
    Reader.ensure (← Reader.remaining).isEmpty
    pure extensions

/-- The one extension with an identifier; fails when there are two. -/
def unique? (extensions : List Raw) (oid : ObjectIdentifier) : Option (Option Raw) :=
  match extensions.filter (·.oid == oid) with
  | [] => some none
  | [e] => some (some e)
  | _ => none

/-- The fields of Basic Constraints, both of which may be missing. -/
def basicConstraints? (value : Bytes) : Option BasicConstraints := do
  let fields ← (Reader.sequence do
    let fields ← Reader.all Reader.element
    Reader.ensure (← Reader.remaining).isEmpty
    pure fields).first? value
  match fields with
  | [] => some ⟨false, none⟩
  | [e] =>
      match boolean? e with
      | some ca => some ⟨ca, none⟩
      | none => (unsigned? e).map fun n => ⟨false, some n⟩
  | [ca, n] => some ⟨← boolean? ca, some (← unsigned? n)⟩
  | _ => none

/-- The bits of Key Usage, the first of them the highest of the first octet. -/
def keyUsage? (value : Bytes) : Option KeyUsage := do
  let bits ← Reader.bitString.first? value
  let first := (bits.headD 0).toNat
  let bit (i : Nat) : Bool := first / Nat.pow 2 (7 - i) % 2 == 1
  some ⟨bit 0, bit 1, bit 5, bit 6⟩

/-- The key identifier inside its octet string. -/
def subjectKeyId? (value : Bytes) : Option Bytes :=
  (Reader.primitive TagNumber.octetString).first? value

end Extension

/-- The fields that the signature of a certificate covers. -/
structure CertificateBody where
  serial : Bytes
  issuer : Asn1.Name
  notBefore : Timestamp
  notAfter : Timestamp
  subject : Asn1.Name
  publicKey : PublicKey
  extensions : List Extension.Raw
deriving DecidableEq, Repr

/-- A certificate as its encoding presents it. -/
structure EncodedCertificate where
  body : CertificateBody
  /-- The octets that the signature covers. -/
  signed : Bytes
  signatureAlgorithm : Reader.Algorithm
  signature : Bytes
deriving DecidableEq, Repr

namespace PublicKey

/-- The family that an algorithm identifier names. The curve of an elliptic key is what its
parameters say when they are taken for an object identifier. -/
def familyOf (a : Reader.Algorithm) : KeyAlgorithm :=
  let oid := a.oid.dotted
  if oid = "1.2.840.113549.1.1.1" then .rsa
  else if oid = "1.2.840.113549.1.1.10" then .rsaPss
  else if oid = "1.2.840.10045.2.1" then
    match a.parameters with
    | some e => .ec (Curve.ofOid (ObjectIdentifier.dotted ⟨e.content⟩))
    | none => .ec (.other "implicit")
  else if oid = "1.3.101.112" then .ed25519
  else .other oid

/-- Reads a SubjectPublicKeyInfo. Of its octets those up to the end of the key are kept. -/
def reader : Asn1.Reader (Reader.Algorithm × PublicKey) := fun b => do
  let ((algorithm, key, unread), rest) ← (Reader.sequence do
    let algorithm ← Reader.algorithm
    let key ← Reader.bitString
    pure (algorithm, key, ← Reader.remaining)) b
  let info := b.take (b.length - rest.length - unread.length)
  pure ((algorithm, ⟨familyOf algorithm, info, key⟩), rest)

end PublicKey

namespace CertificateBody

/-- An optional element with a context tag that holds the contents of a BIT STRING. -/
def uniqueId (number : Nat) : Asn1.Reader Unit := do
  let b ← Reader.remaining
  if b.isEmpty then pure ()
  else
    let (header, _) ← Reader.expect (readHeader b)
    if header.tagClass == .contextSpecific && header.number == number then
      let e ← Reader.element
      Reader.ensure (!e.header.constructed && (Reader.bits? e.content).isSome)

/-- The optional version number in front of the serial number. -/
def version : Asn1.Reader Unit := do
  let (header, _) ← Reader.expect (readHeader (← Reader.remaining))
  if header.tagClass == .contextSpecific && header.number == 0 then
    let e ← Reader.element
    let _ ← Reader.within Reader.unsigned32 e.content

/-- Reads the fields one after the other. -/
def reader : Asn1.Reader CertificateBody := do
  version
  let serial ← Reader.element
  Reader.ensure (serial.number == TagNumber.integer)
  let _ ← Reader.algorithm
  let issuer ← Name.reader
  let (notBefore, notAfter) ← Reader.sequence do
    let notBefore ← Reader.time
    let notAfter ← Reader.time
    pure (notBefore, notAfter)
  let subject ← Name.reader
  let (_, publicKey) ← PublicKey.reader
  uniqueId 1
  uniqueId 2
  let extensions ← Extension.trailing 3
  pure { serial := serial.content, issuer, notBefore, notAfter, subject, publicKey, extensions }

end CertificateBody

namespace EncodedCertificate

/-- Reads a certificate from the front of its input. -/
def reader : Asn1.Reader EncodedCertificate := Reader.sequence do
  let start ← Reader.remaining
  let body ← Reader.sequence CertificateBody.reader
  let rest ← Reader.remaining
  let signatureAlgorithm ← Reader.algorithm
  let signature ← Reader.bitString
  pure { body, signed := start.take (start.length - rest.length), signatureAlgorithm, signature }

end EncodedCertificate

/-- Why octets are no certificate. -/
inductive CertificateFault where
  | malformed
  | duplicateBasicConstraints
  | duplicateKeyUsage
  | malformedKeyUsage
  | armour (fault : Text.Pem.Fault)
  | unexpectedBlock (label : String)
deriving DecidableEq, Repr

namespace CertificateFault

def message : CertificateFault → String
  | malformed => "malformed encoding"
  | duplicateBasicConstraints => "basic constraints: duplicate extension"
  | duplicateKeyUsage => "key usage: duplicate extension"
  | malformedKeyUsage => "key usage: malformed extension"
  | armour fault => fault.message
  | unexpectedBlock label => "unexpected PEM block: " ++ label

end CertificateFault

namespace Certificate

/-- The record of an encoded certificate. -/
def ofEncoded (type : CertificateType) (der : Bytes) (e : EncodedCertificate) :
    Except CertificateFault Certificate := do
  let body := e.body
  let some basic := Extension.unique? body.extensions Extension.basicConstraints
    | throw .duplicateBasicConstraints
  let some usage := Extension.unique? body.extensions Extension.keyUsage | throw .duplicateKeyUsage
  let keyUsage ← match usage with
    | none => pure none
    | some raw =>
        match Extension.keyUsage? raw.value with
        | some usage => pure (some usage)
        | none => throw .malformedKeyUsage
  let keyId := (body.extensions.filter (·.oid == Extension.subjectKeyId)).findSome? fun raw =>
    Extension.subjectKeyId? raw.value
  pure {
    fingerprint := fingerprintOf der
    der, type
    subject := body.subject.text
    issuer := body.issuer.text
    serial := SerialNumber.ofBytes body.serial
    country := body.subject.country.map Text.asciiUpper
    notBefore := body.notBefore
    notAfter := body.notAfter
    publicKey := body.publicKey
    basicConstraints := basic.bind fun raw => Extension.basicConstraints? raw.value
    keyUsage
    subjectKeyId := keyId.map Bytes.toHex
    uploadId := none
    storedInLdap := false }

/-- Reads the certificate at the front of an octet string. -/
def decode (type : CertificateType) (der : Bytes) : Except CertificateFault Certificate :=
  match EncodedCertificate.reader.first? der with
  | some e => ofEncoded type der e
  | none => throw .malformed

/-- Reads a certificate in its binary encoding. -/
def ofDer (type : CertificateType) (der : Bytes) : Except Error Certificate :=
  (decode type der).mapError fun fault => .certificateParse fault.message

/-- What a record that has just been read holds beside the fields of the certificate. -/
theorem ofDer_record {type : CertificateType} {der : Bytes} {c : Certificate}
    (h : ofDer type der = .ok c) :
    c.type = type ∧ c.der = der ∧ c.fingerprint = fingerprintOf der ∧ c.uploadId = none ∧
      c.storedInLdap = false := by
  have hdecode : decode type der = .ok c := mapError_eq_ok_iff.1 h
  unfold decode at hdecode
  split at hdecode
  · simp only [ofEncoded] at hdecode
    split at hdecode
    · split at hdecode
      · split at hdecode
        · obtain rfl := Except.ok.inj hdecode
          exact ⟨rfl, rfl, rfl, rfl, rfl⟩
        · split at hdecode
          · obtain rfl := Except.ok.inj hdecode
            exact ⟨rfl, rfl, rfl, rfl, rfl⟩
          · cases hdecode
      · cases hdecode
    · cases hdecode
  · cases hdecode

/-- Reads the first armoured block, which must be a certificate. -/
def ofPem (type : CertificateType) (text : Bytes) : Except Error Certificate :=
  match Text.Pem.readFirst text with
  | .error fault => .error (.certificateParse (CertificateFault.armour fault).message)
  | .ok block =>
      if block.label = "CERTIFICATE" then ofDer type block.contents
      else .error (.certificateParse (CertificateFault.unexpectedBlock block.label).message)

/-- How armoured input begins. -/
def armourStart : Bytes := Bytes.ofString "-----BEGIN"

/-- Reads a certificate in either form, told apart by the first octets. -/
def ofBytes (type : CertificateType) (data : Bytes) : Except Error Certificate :=
  if Bytes.beginsWith armourStart data then ofPem type data else ofDer type data

end Certificate

end Mrtd
