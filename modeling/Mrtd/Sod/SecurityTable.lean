import Mrtd.Der.Algorithm
import Mrtd.Digest.Algorithm
import Mrtd.OrderedTable
import Mrtd.Text.Utf8

/-!
The signed content of a document security object: the digests expected of its data groups. The
encoded form allows more than the profile does; reading it and checking it are two steps.
-/

namespace Mrtd.Sod

open Der

/-- Why octets are no document security object, or not one of the profile. -/
inductive Fault where
  | empty
  | unexpectedTag (tag : UInt8)
  | malformedWrapper
  | malformedContentInfo
  | notSignedData (oid : String)
  | malformedSignedData
  | notSecurityTable (oid : String)
  | missingContent
  | malformedTable
  | groupOutOfRange (number : Nat)
  | duplicateGroup (number : Nat)
  | missingVersionInfo
  | unexpectedVersionInfo
  | unknownVersion (version : Nat)
  | noSigner
  | malformedIssuer
  | malformedContentType
  | missingMessageDigest
  | tooLong
  | malformedElement
  | emptySignedData
  | missingSignedAttributes
deriving DecidableEq, Repr

namespace Fault

def message : Fault → String
  | empty => "empty input"
  | unexpectedTag tag => "unexpected EF.SOD tag 0x" ++ Bytes.toUpperHex [tag]
  | malformedWrapper => "EF.SOD wrapper: malformed encoding"
  | malformedContentInfo => "ContentInfo: malformed encoding"
  | notSignedData oid => "content type " ++ oid ++ " is not id-signedData"
  | malformedSignedData => "SignedData: malformed encoding"
  | notSecurityTable oid => "eContentType " ++ oid ++ " is not ldsSecurityObject"
  | missingContent => "missing eContent"
  | malformedTable => "LDSSecurityObject: malformed encoding"
  | groupOutOfRange number => "data group number " ++ toString number ++ " out of range"
  | duplicateGroup number => "duplicate data group " ++ toString number
  | missingVersionInfo => "LDS V1 without ldsVersionInfo"
  | unexpectedVersionInfo => "LDS V0 with ldsVersionInfo"
  | unknownVersion version => "unknown LDS security object version " ++ toString version
  | noSigner => "no SignerInfo"
  | malformedIssuer => "signer issuer: malformed name"
  | malformedContentType => "contentType attribute: malformed identifier"
  | missingMessageDigest => "signed attributes lack messageDigest"
  | tooLong => "reader: too many octets"
  | malformedElement => "element: malformed encoding"
  | emptySignedData => "empty SignedData"
  | missingSignedAttributes => "signed attributes not found"

/-- The error that a fault amounts to. -/
def error (f : Fault) : Error := .sodDecode f.message

end Fault

/-- The version of the data structure, with the version texts that the second one carries. -/
inductive LdsVersion where
  | v0
  | v1 (lds unicode : String)
deriving DecidableEq, Repr

/-- The table as its encoding presents it. -/
structure EncodedTable where
  version : Nat
  algorithm : Algorithm
  /-- Numbers and digests of data groups. -/
  digests : List (Nat × Bytes)
  /-- The version texts, whatever their types. -/
  versionInfo : Option (Element × Element)
deriving DecidableEq, Repr

/-- The table of a document of the profile. -/
structure SecurityTable where
  algorithm : DigestAlgorithm
  /-- Digests by data group number, ascending. -/
  digests : List (Nat × Bytes)
  version : LdsVersion
deriving DecidableEq, Repr

/-- The greatest number of a data group. -/
def maxDataGroup : Nat := 16

namespace EncodedTable

/-- One entry of the table. -/
def digestOfElement? : Element → Option (Nat × Bytes) :=
  fieldsOf? Tag.sequence do
    let number ← Fields.read octetOfElement?
    let digest ← Fields.read octetString?
    pure (number, digest)

def versionInfoOfElement? : Element → Option (Element × Element) :=
  fieldsOf? Tag.sequence do
    let lds ← Fields.next
    let unicode ← Fields.next
    pure (lds, unicode)

def ofElement? : Element → Option EncodedTable :=
  fieldsOf? Tag.sequence do
    let version ← Fields.read octetOfElement?
    let algorithm ← Fields.read Algorithm.ofElement?
    let digests ← Fields.read (membersOf? Tag.sequence digestOfElement?)
    let versionInfo ← Fields.readIf (· == Tag.sequence) versionInfoOfElement?
    pure ⟨version, algorithm, digests, versionInfo⟩

def digestElement (entry : Nat × Bytes) : Element :=
  construct Tag.sequence [octetElement entry.1, ⟨Tag.octetString, entry.2⟩]

def element (t : EncodedTable) : Element :=
  construct Tag.sequence ([octetElement t.version, t.algorithm.element,
      construct Tag.sequence (t.digests.map digestElement)] ++
    (t.versionInfo.map fun (lds, unicode) => construct Tag.sequence [lds, unicode]).toList)

/-- Enters digests one after the other. A number outside the range of data groups or entered before
is refused. -/
def enter : List (Nat × Bytes) → List (Nat × Bytes) → Except Fault (List (Nat × Bytes))
  | table, [] => .ok table
  | table, (number, digest) :: rest =>
      if number < 1 ∨ maxDataGroup < number then .error (.groupOutOfRange number)
      else if (OrderedTable.find? number table).isSome then .error (.duplicateGroup number)
      else enter (OrderedTable.insert compare number digest table) rest

/-- The version, which carries texts exactly if it is the second. -/
def ldsVersion (t : EncodedTable) : Except Fault LdsVersion :=
  match t.version, t.versionInfo with
  | 0, none => .ok .v0
  | 1, some (lds, unicode) =>
      .ok (.v1 (Text.ofUtf8Lossy lds.content) (Text.ofUtf8Lossy unicode.content))
  | 1, none => .error .missingVersionInfo
  | 0, some _ => .error .unexpectedVersionInfo
  | v, _ => .error (.unknownVersion v)

/-- Checks a table against the profile. -/
def check (t : EncodedTable) : Except Error SecurityTable := do
  let algorithm ← DigestAlgorithm.ofOid (Oid.text t.algorithm.oid)
  let digests ← (enter [] t.digests).mapError Fault.error
  let version ← t.ldsVersion.mapError Fault.error
  pure ⟨algorithm, digests, version⟩

end EncodedTable

namespace SecurityTable

/-- The table that octets hold. -/
def decode (octets : Bytes) : Except Error SecurityTable :=
  match (decode? octets).bind EncodedTable.ofElement? with
  | some table => table.check
  | none => .error Fault.malformedTable.error

end SecurityTable

end Mrtd.Sod
