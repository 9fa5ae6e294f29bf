import Mrtd.Asn1.ObjectIdentifier
import Mrtd.Asn1.Reader
import Mrtd.Der.Element

/-!
The contents of primitive elements in the distinguished encoding: which are permitted, and what they
stand for.
-/

namespace Mrtd.Der

open Asn1 (ObjectIdentifier)

namespace Tag

/-- The tag octets in use. -/
def boolean : UInt8 := 0x01
def integer : UInt8 := 0x02
def bitString : UInt8 := 0x03
def octetString : UInt8 := 0x04
def null : UInt8 := 0x05
def objectIdentifier : UInt8 := 0x06
def printableString : UInt8 := 0x13
def utcTime : UInt8 := 0x17
def generalizedTime : UInt8 := 0x18
def sequence : UInt8 := 0x30
def set : UInt8 := 0x31

/-- The tag of a primitive element with a context number. -/
def context (number : Nat) : UInt8 := UInt8.ofNat (0x80 + number)

/-- The tag of a constructed element with a context number. -/
def constructedContext (number : Nat) : UInt8 := UInt8.ofNat (0xA0 + number)

end Tag

namespace Oid

/-- The arcs after the first octet, in base 128 with the high bit on all but the last octet of each.
An arc has at most five octets, the fifth below sixteen, and is kept in 32 bits. -/
def arcs? (value size : Nat) : Bytes → Option (List Nat)
  | [] => if size = 0 then some [] else none
  | b :: rest =>
      if 4 ≤ size ∧ 16 ≤ b.toNat then none
      else
        let value := value * 128 + b.toNat % 128
        if b.toNat < 128 then (arcs? 0 0 rest).map (value % Nat.pow 2 32 :: ·)
        else arcs? value (size + 1) rest

/-- All arcs. The first octet stands for two of them, the first at most two. -/
def allArcs? (o : ObjectIdentifier) : Option (List Nat) :=
  match o.octets with
  | [] => none
  | first :: rest =>
      if first.toNat < 120 then
        (arcs? 0 0 rest).map fun arcs => first.toNat / 40 :: first.toNat % 40 :: arcs
      else none

/-- Identifiers have three to thirty-nine octets and whole arcs. -/
def isPermitted (o : ObjectIdentifier) : Bool :=
  decide (3 ≤ o.octets.length) && decide (o.octets.length ≤ 39) && (allArcs? o).isSome

/-- The dotted form. -/
def text (o : ObjectIdentifier) : String :=
  ObjectIdentifier.joinDots ((allArcs? o).getD [])

def ofElement? (e : Element) : Option ObjectIdentifier :=
  if e.tag = Tag.objectIdentifier ∧ isPermitted ⟨e.content⟩ = true then some ⟨e.content⟩ else none

def element (o : ObjectIdentifier) : Element := ⟨Tag.objectIdentifier, o.octets⟩

end Oid

/-- A number below 256 from the contents of an INTEGER. -/
def octet? : Bytes → Option Nat
  | [a] => if a.toNat < 0x80 then some a.toNat else none
  | [a, b] => if a = 0 ∧ 0x80 ≤ b.toNat then some b.toNat else none
  | _ => none

/-- The contents of the INTEGER of a number below 256. -/
def octetContent (n : Nat) : Bytes :=
  if n < 0x80 then [UInt8.ofNat n] else [0, UInt8.ofNat n]

/-- The number below 256 that an INTEGER holds. -/
def octetOfElement? (e : Element) : Option Nat :=
  if e.tag = Tag.integer then octet? e.content else none

/-- The INTEGER of a number below 256. -/
def octetElement (n : Nat) : Element := ⟨Tag.integer, octetContent n⟩

/-- The contents of a BOOLEAN. -/
def boolean? : Bytes → Option Bool
  | [0x00] => some false
  | [0xFF] => some true
  | _ => none

/-- Up to seven bits may be unused, but none of an empty string. -/
def isBitString : Bytes → Bool
  | [] => false
  | [unused] => unused == 0
  | unused :: _ => decide (unused.toNat ≤ 7)

/-- The contents of an OCTET STRING element. -/
def octetString? (e : Element) : Option Bytes :=
  if e.tag = Tag.octetString then some e.content else none

/-- A serial number is a shortest INTEGER of at most twenty octets, and one for the sign. -/
def isSerial (e : Element) : Bool :=
  e.tag == Tag.integer && Asn1.Reader.isMinimalInteger e.content && decide (e.content.length ≤ 21)

/-- The number that decimal digits denote. -/
def decimal? (digits : Bytes) : Option Nat :=
  (digits.mapM Asn1.Reader.digit?).map fun ds => ds.foldl (fun n d => 10 * n + d) 0

/-- Month, day and time of day, and a `Z`, after the year. Years before 1970 are refused. -/
def isDateTime (year : Nat) (rest : Bytes) : Bool :=
  let part (i : Nat) : Option Nat := decimal? ((rest.drop (2 * i)).take 2)
  rest.length == 11 && rest.getLast? == some 0x5A && decide (1970 ≤ year) &&
    match part 0, part 1, part 2, part 3, part 4 with
    | some month, some day, some hour, some minute, some second =>
        (Timestamp.ofFields? year month day hour minute second).isSome
    | _, _, _, _, _ => false

/-- A time: years have two digits in a UTCTime and four in a GeneralizedTime. -/
def isTime (e : Element) : Bool :=
  if e.tag = Tag.utcTime then
    match decimal? (e.content.take 2) with
    | some y => isDateTime (if 50 ≤ y then 1900 + y else 2000 + y) (e.content.drop 2)
    | none => false
  else if e.tag = Tag.generalizedTime then
    match decimal? (e.content.take 4) with
    | some y => isDateTime y (e.content.drop 4)
    | none => false
  else false

end Mrtd.Der
