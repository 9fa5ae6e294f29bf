import Mrtd.Certificate.Reader
import Mrtd.Cms.SignedData
import Mrtd.Sod.SecurityTable

/-!
Document security objects: signed data around the table of data group digests, with or without the
application tag around it all.
-/

namespace Mrtd.Sod

open Asn1 (ObjectIdentifier)
open Der Cms

/-- How the signer is named, in text. -/
inductive SignerId where
  | issuerAndSerial (issuer serial : String)
  /-- In lower-case hexadecimal. -/
  | subjectKeyId (id : String)
deriving DecidableEq, Repr

/-- What the signature says of the content. -/
structure SignedAttributes where
  messageDigest : Bytes
  /-- Dotted. -/
  contentType : Option String
deriving DecidableEq, Repr

/-- A decoded document security object. -/
structure SecurityObject where
  /-- The certificate among those embedded that the signer's name fits. -/
  embeddedSigner : Option Certificate
  signerId : SignerId
  /-- The digest of the signer. -/
  digestAlgorithm : DigestAlgorithm
  /-- Dotted. -/
  signatureAlgorithm : String
  table : SecurityTable
  signedAttributes : Option SignedAttributes
  /-- The octets of the table. -/
  content : Bytes
  /-- The octets that the signature covers. -/
  signedBytes : Bytes
  signature : Bytes
deriving DecidableEq, Repr

namespace SignerId

/-- A certificate is the one that is named. -/
def names (id : SignerId) (c : Certificate) : Bool :=
  match id with
  | issuerAndSerial issuer serial => c.serial == serial && DistinguishedName.same c.issuer issuer
  | subjectKeyId id => c.subjectKeyId == some id

/-- The name in signer information. -/
def ofIdentifier : SignerIdentifier → Except Error SignerId
  | .issuerAndSerial issuer serial =>
      match Asn1.Name.reader.first? issuer.element.encode with
      | some name => .ok (issuerAndSerial name.text (SerialNumber.ofBytes serial))
      | none => .error Fault.malformedIssuer.error
  | .subjectKeyId id => .ok (subjectKeyId id.toHex)

end SignerId

namespace SignedAttributes

/-- The attribute types that are looked at. -/
def contentTypeOid : ObjectIdentifier :=
  ⟨[0x2A, 0x86, 0x48, 0x86, 0xF7, 0x0D, 0x01, 0x09, 0x03]⟩
def messageDigestOid : ObjectIdentifier :=
  ⟨[0x2A, 0x86, 0x48, 0x86, 0xF7, 0x0D, 0x01, 0x09, 0x04]⟩

/-- The content type that an element names. -/
def contentTypeOf (e : Element) : Except Error String :=
  match Oid.ofElement? e with
  | some oid => .ok (Oid.text oid)
  | none => .error Fault.malformedContentType.error

/-- Goes through attributes, of each of which the first value counts; later attributes of a type
replace earlier ones. -/
def collect (digest : Option Bytes) (type : Option String) :
    List Attribute → Except Error (Option Bytes × Option String)
  | [] => .ok (digest, type)
  | a :: rest =>
      match a.values with
      | [] => collect digest type rest
      | value :: _ =>
          if a.type = messageDigestOid then collect (some value.content) type rest
          else if a.type = contentTypeOid then do
            collect digest (some (← contentTypeOf value)) rest
          else collect digest type rest

/-- The attributes that signer information signs; a message digest must be among them. -/
def ofAttributes (attributes : List Attribute) : Except Error SignedAttributes := do
  match ← collect none none attributes with
  | (some digest, type) => pure ⟨digest, type⟩
  | (none, _) => throw Fault.missingMessageDigest.error

end SignedAttributes

namespace SecurityObject

/-- The application tag around a security object. -/
def wrapperTag : UInt8 := 0x77

/-- The content types of signed data and of its content. -/
def signedDataOid : ObjectIdentifier :=
  ⟨[0x2A, 0x86, 0x48, 0x86, 0xF7, 0x0D, 0x01, 0x07, 0x02]⟩
def securityTableOid : ObjectIdentifier := ⟨[0x67, 0x81, 0x08, 0x01, 0x01, 0x01]⟩

/-- Removes the wrapper, if there is one. -/
def unwrap : Bytes → Except Fault Bytes
  | [] => .error .empty
  | tag :: rest =>
      if tag = wrapperTag then
        match decode? (tag :: rest) with
        | some e => .ok e.content
        | none => .error .malformedWrapper
      else if tag = Tag.sequence then .ok (tag :: rest)
      else .error (.unexpectedTag tag)

/-- The certificate that the signer's name fits, among those embedded. All of them must be
readable. -/
def embeddedSignerOf (d : SignedData) (id : SignerId) : Except Error (Option Certificate) := do
  let certificates ← d.properCertificates.mapM (Certificate.ofDer .dsc)
  pure (certificates.find? id.names)

/-- All elements that octets consist of, one after the other. -/
def readAll (octets : Bytes) : Except Fault (List Element) :=
  if maxLength < octets.length then .error .tooLong
  else
    match elements? octets with
    | some es => .ok es
    | none => .error .malformedElement

theorem readAll_eq_ok_iff {octets : Bytes} {es : List Element} :
    readAll octets = .ok es ↔ octets.length ≤ maxLength ∧ elements? octets = some es := by
  unfold readAll
  split
  · rename_i hlong
    simp [Nat.not_le.2 hlong]
  · rename_i hlength
    cases elements? octets <;> simp [Nat.not_lt.1 hlength]

theorem readAll_eq_error_iff {octets : Bytes} {fault : Fault} :
    readAll octets = .error fault ↔
      (maxLength < octets.length ∧ fault = .tooLong) ∨
        (octets.length ≤ maxLength ∧ elements? octets = none ∧ fault = .malformedElement) := by
  unfold readAll
  split
  · rename_i hlong
    simp [hlong, Nat.not_le.2 hlong, eq_comm]
  · rename_i hlength
    cases elements? octets <;> simp [hlength, Nat.not_lt.1 hlength, eq_comm]

/-- The attributes that the first signer information in an element with signed data signs, with the
octets they have there but under the tag of a SET. -/
def rawSignedAttributes (e : Element) : Except Fault (Option Bytes) := do
  let some signers := (← readAll e.content).getLast? | throw .emptySignedData
  let some first := (← readAll signers.content).head? | throw .noSigner
  let attributes := (← readAll first.content).find? (·.tag == Tag.constructedContext 0)
  pure (attributes.map fun field => Element.encode ⟨Tag.set, field.content⟩)

/-- The octets that the signature covers: the signed attributes as they are encoded, or else the
content. -/
def signedBytesOf (raw : Option Bytes) (attributes : Option SignedAttributes) (content : Bytes) :
    Except Error Bytes :=
  match raw, attributes with
  | some raw, _ => .ok raw
  | none, some _ => .error Fault.missingSignedAttributes.error
  | none, none => .ok content

/-- The element with signed data, and the signed data in it. -/
def signedData (octets : Bytes) : Except Fault (Element × SignedData) := do
  let octets ← unwrap octets
  match (decode? octets).bind ContentInfo.ofElement? with
  | none => throw .malformedContentInfo
  | some info =>
      if info.type ≠ signedDataOid then throw (.notSignedData (Oid.text info.type))
      else
        match SignedData.ofElement? info.content with
        | some d => pure (info.content, d)
        | none => throw .malformedSignedData

/-- The content of signed data, which must be of the one type. -/
def contentOf (d : SignedData) : Except Fault Bytes :=
  if d.content.type ≠ securityTableOid then .error (.notSecurityTable (Oid.text d.content.type))
  else
    match d.content.content with
    | some e => .ok e.content
    | none => .error .missingContent

/-- Reads a security object. Of several signers the first counts. -/
def decode (octets : Bytes) : Except Error SecurityObject := do
  let (element, d) ← (signedData octets).mapError Fault.error
  let content ← (contentOf d).mapError Fault.error
  let table ← SecurityTable.decode content
  let some signer := d.signers.head? | throw Fault.noSigner.error
  let digestAlgorithm ← DigestAlgorithm.ofOid (Oid.text signer.digestAlgorithm.oid)
  let signerId ← SignerId.ofIdentifier signer.signer
  let embeddedSigner ← embeddedSignerOf d signerId
  let signedAttributes ← signer.signedAttributes.mapM SignedAttributes.ofAttributes
  let raw ← (rawSignedAttributes element).mapError Fault.error
  let signedBytes ← signedBytesOf raw signedAttributes content
  pure {
    embeddedSigner, signerId, digestAlgorithm
    signatureAlgorithm := Oid.text signer.signatureAlgorithm.oid
    table, signedAttributes, content, signedBytes
    signature := signer.signature }

end SecurityObject

end Mrtd.Sod
