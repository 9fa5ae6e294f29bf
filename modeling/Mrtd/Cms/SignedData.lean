import Mrtd.Cms.SignerInfo
import Mrtd.Der.Canonical

/-!
Signed data: content, the certificates and revocation lists that come with it, and its signers.
-/

namespace Mrtd.Cms

open Asn1 (ObjectIdentifier)
open Der

/-- Content of a named type. -/
structure ContentInfo where
  type : ObjectIdentifier
  content : Element
deriving DecidableEq, Repr

namespace ContentInfo

def ofElement? : Element → Option ContentInfo :=
  fieldsOf? Tag.sequence do
    let type ← Fields.read Oid.ofElement?
    match ← Fields.readContext 0 (inside? (Tag.constructedContext 0) some) with
    | some content => pure ⟨type, content⟩
    | none => fun _ => none

def element (c : ContentInfo) : Element :=
  construct Tag.sequence [Oid.element c.type, construct (Tag.constructedContext 0) [c.content]]

end ContentInfo

/-- Content inside signed data, which may be missing. -/
structure EncapsulatedContent where
  type : ObjectIdentifier
  content : Option Element
deriving DecidableEq, Repr

namespace EncapsulatedContent

def ofElement? : Element → Option EncapsulatedContent :=
  fieldsOf? Tag.sequence do
    let type ← Fields.read Oid.ofElement?
    let content ← Fields.readContext 0 (inside? (Tag.constructedContext 0) some)
    pure ⟨type, content⟩

def element (c : EncapsulatedContent) : Element :=
  construct Tag.sequence (Oid.element c.type ::
    (c.content.map fun e => construct (Tag.constructedContext 0) [e]).toList)

end EncapsulatedContent

/-- Signed data. What is a set is in ascending order. Certificates and revocation lists, or what
stands in their place, are kept in canonical form. -/
structure SignedData where
  version : Nat
  digestAlgorithms : List Algorithm
  content : EncapsulatedContent
  certificates : Option (List Element)
  crls : Option (List Element)
  signers : List SignerInfo
deriving DecidableEq, Repr

namespace SignedData

def ofElement? : Element → Option SignedData :=
  fieldsOf? Tag.sequence do
    let version ← Fields.read version?
    let digestAlgorithms ← Fields.read (setOf? Tag.set Algorithm.ofElement? Algorithm.order)
    let content ← Fields.read EncapsulatedContent.ofElement?
    let certificates ← Fields.readContext 0
      (setOf? (Tag.constructedContext 0) Canonical.certificateChoice? Element.alternativeOrder)
    let crls ← Fields.readContext 1
      (setOf? (Tag.constructedContext 1) Canonical.revocationChoice? Element.alternativeOrder)
    let signers ← Fields.read (setOf? Tag.set SignerInfo.ofElement? SignerInfo.order)
    pure ⟨version, digestAlgorithms, content, certificates, crls, signers⟩

/-- A set under a context number. -/
def contextSet (number : Nat) (members : Option (List Element)) : List Element :=
  (members.map (construct (Tag.constructedContext number))).toList

def element (d : SignedData) : Element :=
  construct Tag.sequence ([octetElement d.version,
      construct Tag.set (d.digestAlgorithms.map Algorithm.element), d.content.element] ++
    contextSet 0 d.certificates ++ contextSet 1 d.crls ++
    [construct Tag.set (d.signers.map SignerInfo.element)])

/-- The certificates proper, in canonical form. -/
def properCertificates (d : SignedData) : List Bytes :=
  (((d.certificates.getD []).filter (·.tag == Tag.sequence)).map Element.encode)

end SignedData

end Mrtd.Cms
