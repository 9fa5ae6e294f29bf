import Mrtd.Certificate.Reader
import Mrtd.RevocationList.Basic

/-!
Reading revocation lists, from their binary encoding or in armour.
-/

namespace Mrtd

open Asn1

/-- A revocation list as its encoding presents it. -/
structure EncodedRevocationList where
  issuer : Asn1.Name
  thisUpdate : Timestamp
  nextUpdate : Option Timestamp
  entries : List RevocationEntry
deriving DecidableEq, Repr

namespace EncodedRevocationList

/-- The reason in an extension: an ENUMERATED of at most ten. -/
def reasonCode? (value : Bytes) : Option Nat := do
  let content ← (Reader.primitive TagNumber.enumerated).first? value
  let n := Bytes.toNat content
  if n ≤ 10 then some n else none

/-- Reads one entry. Only the first extension with the reason's identifier is looked at. -/
def entry : Asn1.Reader RevocationEntry := Reader.sequence do
  let serial ← Reader.element
  Reader.ensure (serial.number == TagNumber.integer)
  let date ← Reader.time
  let extensions ← Reader.optional Extension.listReader
  let reason := ((extensions.getD []).find? (·.oid == Extension.reasonCode)).bind fun raw =>
    reasonCode? raw.value
  pure ⟨SerialNumber.ofBytes serial.content, date, reason.map RevocationReason.ofCode⟩

/-- Reads the entries, all of which must be readable. -/
def entryList : Asn1.Reader (List RevocationEntry) := Reader.sequence do
  let entries ← Reader.all entry
  Reader.ensure (← Reader.remaining).isEmpty
  pure entries

/-- Reads the fields that the signature covers. -/
def body : Asn1.Reader EncodedRevocationList := Reader.sequence do
  let _ ← Reader.optional Reader.unsigned32
  let _ ← Reader.algorithm
  let issuer ← Name.reader
  let thisUpdate ← Reader.time
  let nextUpdate ← Reader.optional Reader.time
  let entries ← Reader.optional entryList
  let _ ← Extension.trailing 0
  pure ⟨issuer, thisUpdate, nextUpdate, entries.getD []⟩

/-- Reads a revocation list from the front of its input. -/
def reader : Asn1.Reader EncodedRevocationList := Reader.sequence do
  let list ← body
  let _ ← Reader.algorithm
  let _ ← Reader.bitString
  pure list

end EncodedRevocationList

namespace RevocationList

/-- Reads the list at the front of an octet string. The signature is not looked at here: whoever
ingests a list has verified it. -/
def ofDer (der : Bytes) : Except Error RevocationList :=
  match EncodedRevocationList.reader.first? der with
  | some e =>
      .ok (ofEntries (fingerprintOf der) e.issuer.text e.issuer.country e.thisUpdate e.nextUpdate
        e.entries)
  | none => .error (.crlParse "malformed encoding")

/-- Reads a list in either form. Of armoured input the first block counts, whatever its label. -/
def ofBytes (data : Bytes) : Except Error RevocationList :=
  if Bytes.beginsWith Certificate.armourStart data then
    match Text.Pem.readFirst data with
    | .error fault => .error (.crlParse fault.message)
    | .ok block => ofDer block.contents
  else ofDer data

end RevocationList

end Mrtd
