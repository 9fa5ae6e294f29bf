import Mrtd.Der.Algorithm
import Mrtd.Der.Name

/-!
The canonical forms of certificates and revocation lists. A form is the element that results from
reading an element field by field and writing the fields again: attributes of a name are sorted,
fields that state a default disappear, and so do fields that were passed over. An element that
breaks the distinguished encoding has none.
-/

namespace Mrtd.Der.Canonical

/-- An element that is its own form. -/
def keep (accepts : Element → Bool) (e : Element) : Option Element :=
  if accepts e then some e else none

/-- The form of an algorithm identifier. -/
def algorithm? (e : Element) : Option Element :=
  (Algorithm.ofElement? e).map Algorithm.element

/-- The form of a name. -/
def name? (e : Element) : Option Element :=
  (Name.ofElement? e).map Name.element

/-- The form of a serial number. -/
def serial? : Element → Option Element := keep isSerial

/-- The form of a time. -/
def time? : Element → Option Element := keep isTime

/-- The form of a BIT STRING under a tag. -/
def bits? (tag : UInt8) : Element → Option Element :=
  keep fun e => e.tag == tag && isBitString e.content

/-- The form of an OCTET STRING. -/
def octets? : Element → Option Element := keep (·.tag == Tag.octetString)

/-- The form of an identifier. -/
def oid? (e : Element) : Option Element := (Oid.ofElement? e).map Oid.element

/-- The form of a version number up to two. -/
def version? : Element → Option Element :=
  keep fun e => (octetOfElement? e).any fun n => decide (n ≤ 2)

/-- The form of an element around one other. -/
def explicit? (number : Nat) (f : Element → Option Element) (e : Element) : Option Element :=
  (inside? (Tag.constructedContext number) f e).map fun inner =>
    construct (Tag.constructedContext number) [inner]

/-- The form of a SEQUENCE whose fields have forms in turn. -/
def record? (fields : List (Element → Option Element)) : Element → Option Element :=
  fieldsOf? Tag.sequence do
    pure (construct Tag.sequence (← fields.mapM Fields.read))

/-- The form of a SEQUENCE of members. -/
def list? (member : Element → Option Element) (e : Element) : Option Element :=
  (membersOf? Tag.sequence member e).map (construct Tag.sequence)

/-- The form of an extension. It is critical only if it says so. -/
def extension? : Element → Option Element :=
  fieldsOf? Tag.sequence do
    let oid ← Fields.read oid?
    let critical ← Fields.readIf (· == Tag.boolean) fun e =>
      (boolean? e.content).map fun b => (b, e)
    let value ← Fields.read octets?
    let stated := match critical with
      | some (true, e) => [e]
      | _ => []
    pure (construct Tag.sequence (oid :: stated ++ [value]))

/-- The form of a list of extensions. -/
def extensions? : Element → Option Element := list? extension?

/-- The form of the fields that the signature of a certificate covers. The first version is the
default. -/
def certificateBody? : Element → Option Element :=
  fieldsOf? Tag.sequence do
    let version ← Fields.readContext 0 (explicit? 0 version?)
    let serial ← Fields.read serial?
    let signature ← Fields.read algorithm?
    let issuer ← Fields.read name?
    let validity ← Fields.read (record? [time?, time?])
    let subject ← Fields.read name?
    let key ← Fields.read (record? [algorithm?, bits? Tag.bitString])
    let issuerId ← Fields.readContext 1 (bits? (Tag.context 1))
    let subjectId ← Fields.readContext 2 (bits? (Tag.context 2))
    let extensions ← Fields.readContext 3 (explicit? 3 extensions?)
    let stated := version.filter (· ≠ construct (Tag.constructedContext 0) [octetElement 0])
    pure (construct Tag.sequence (stated.toList ++
      [serial, signature, issuer, validity, subject, key] ++
      issuerId.toList ++ subjectId.toList ++ extensions.toList))

/-- The form of a certificate. -/
def certificate? : Element → Option Element :=
  record? [certificateBody?, algorithm?, bits? Tag.bitString]

/-- The form of an entry of a revocation list. -/
def revocationEntry? : Element → Option Element :=
  fieldsOf? Tag.sequence do
    let serial ← Fields.read serial?
    let date ← Fields.read time?
    let extensions ← Fields.readIf (· == Tag.sequence) extensions?
    pure (construct Tag.sequence ([serial, date] ++ extensions.toList))

/-- The form of the fields that the signature of a revocation list covers. -/
def revocationListBody? : Element → Option Element :=
  fieldsOf? Tag.sequence do
    let version ← Fields.read version?
    let signature ← Fields.read algorithm?
    let issuer ← Fields.read name?
    let thisUpdate ← Fields.read time?
    let nextUpdate ← Fields.readIf
      (fun tag => tag == Tag.utcTime || tag == Tag.generalizedTime) time?
    let entries ← Fields.readIf (· == Tag.sequence) (list? revocationEntry?)
    let extensions ← Fields.readContext 0 (explicit? 0 extensions?)
    pure (construct Tag.sequence ([version, signature, issuer, thisUpdate] ++
      nextUpdate.toList ++ entries.toList ++ extensions.toList))

/-- The form of a revocation list. -/
def revocationList? : Element → Option Element :=
  record? [revocationListBody?, algorithm?, bits? Tag.bitString]

/-- The form of a value of another kind: an identifier and any one element. -/
def other? (number : Nat) : Element → Option Element :=
  explicit? number (record? [oid?, some])

/-- The form of what may stand among certificates. -/
def certificateChoice? (e : Element) : Option Element :=
  if e.tag = Tag.sequence then certificate? e else other? 3 e

/-- The form of what may stand among revocation lists. -/
def revocationChoice? (e : Element) : Option Element :=
  if e.tag = Tag.sequence then revocationList? e else other? 1 e

end Mrtd.Der.Canonical
