import Mrtd.Der.Algorithm
import Mrtd.Der.Name

/-!
Signer information: who signed, how, and what the signature says of itself.
-/

namespace Mrtd.Cms

open Asn1 (ObjectIdentifier)
open Der

/-- A signed or unsigned attribute: its type and its values in ascending order. -/
structure Attribute where
  type : ObjectIdentifier
  values : List Element
deriving DecidableEq, Repr

namespace Attribute

def ofElement? : Element → Option Attribute :=
  fieldsOf? Tag.sequence do
    let type ← Fields.read Oid.ofElement?
    let values ← Fields.read (setOf? Tag.set some Element.order)
    pure ⟨type, values⟩

def element (a : Attribute) : Element :=
  construct Tag.sequence [Oid.element a.type, construct Tag.set a.values]

def order (a b : Attribute) : Ordering :=
  Element.order a.element b.element

/-- The attributes in an element with a context number. -/
def setOfContext? (number : Nat) : Element → Option (List Attribute) :=
  setOf? (Tag.constructedContext number) ofElement? order

/-- The SET of some attributes. -/
def setElement (attributes : List Attribute) : Element :=
  construct Tag.set (attributes.map element)

end Attribute

/-- How a signer is named. -/
inductive SignerIdentifier where
  | issuerAndSerial (issuer : Name) (serial : Bytes)
  | subjectKeyId (id : Bytes)
deriving DecidableEq, Repr

namespace SignerIdentifier

def ofElement? (e : Element) : Option SignerIdentifier :=
  if e.tag = Tag.context 0 then some (.subjectKeyId e.content)
  else
    fieldsOf? Tag.sequence (do
      let issuer ← Fields.read Name.ofElement?
      let serial ← Fields.read fun e => if isSerial e then some e.content else none
      pure (.issuerAndSerial issuer serial)) e

def element : SignerIdentifier → Element
  | issuerAndSerial issuer serial => construct Tag.sequence [issuer.element, ⟨Tag.integer, serial⟩]
  | subjectKeyId id => ⟨Tag.context 0, id⟩

end SignerIdentifier

/-- The information about one signer. -/
structure SignerInfo where
  version : Nat
  signer : SignerIdentifier
  digestAlgorithm : Algorithm
  signedAttributes : Option (List Attribute)
  signatureAlgorithm : Algorithm
  signature : Bytes
  unsignedAttributes : Option (List Attribute)
deriving DecidableEq, Repr

/-- The versions of signed data and of signer information. -/
def version? (e : Element) : Option Nat :=
  (octetOfElement? e).filter (· ≤ 5)

namespace SignerInfo

def ofElement? : Element → Option SignerInfo :=
  fieldsOf? Tag.sequence do
    let version ← Fields.read version?
    let signer ← Fields.read SignerIdentifier.ofElement?
    let digestAlgorithm ← Fields.read Algorithm.ofElement?
    let signedAttributes ← Fields.readContext 0 (Attribute.setOfContext? 0)
    let signatureAlgorithm ← Fields.read Algorithm.ofElement?
    let signature ← Fields.read octetString?
    let unsignedAttributes ← Fields.readContext 1 (Attribute.setOfContext? 1)
    pure ⟨version, signer, digestAlgorithm, signedAttributes, signatureAlgorithm, signature,
      unsignedAttributes⟩

/-- Attributes under a context number. -/
def contextAttributes (number : Nat) (attributes : Option (List Attribute)) : List Element :=
  (attributes.map fun as =>
    construct (Tag.constructedContext number) (as.map Attribute.element)).toList

def element (s : SignerInfo) : Element :=
  construct Tag.sequence ([octetElement s.version, s.signer.element, s.digestAlgorithm.element] ++
    contextAttributes 0 s.signedAttributes ++
    [s.signatureAlgorithm.element, ⟨Tag.octetString, s.signature⟩] ++
    contextAttributes 1 s.unsignedAttributes)

def attributesOrder : Option (List Attribute) → Option (List Attribute) → Ordering :=
  optionalOrder fun a b => Element.order (Attribute.setElement a) (Attribute.setElement b)

/-- The order of signer information: length, then the fields in turn. -/
def order (a b : SignerInfo) : Ordering :=
  (Element.compareHeader a.element b.element).then <|
    (compare a.version b.version).then <|
      (Element.alternativeOrder a.signer.element b.signer.element).then <|
        (Algorithm.order a.digestAlgorithm b.digestAlgorithm).then <|
          (attributesOrder a.signedAttributes b.signedAttributes).then <|
            (Algorithm.order a.signatureAlgorithm b.signatureAlgorithm).then <|
              (Element.order ⟨Tag.octetString, a.signature⟩ ⟨Tag.octetString, b.signature⟩).then <|
                attributesOrder a.unsignedAttributes b.unsignedAttributes

end SignerInfo

end Mrtd.Cms
