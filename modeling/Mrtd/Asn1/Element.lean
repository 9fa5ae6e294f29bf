import Mrtd.Bytes

/-!
Elements of ASN.1 encodings as certificates in the field hold them: tags of any size and lengths
that need not be minimal, but always definite.
-/

namespace Mrtd.Asn1

/-- The class of a tag. -/
inductive TagClass where
  | universal
  | application
  | contextSpecific
  | reserved
deriving DecidableEq, Repr

namespace TagClass

/-- The class in the two high bits of a number below four. -/
def ofBits : Nat → TagClass
  | 0 => universal
  | 1 => application
  | 2 => contextSpecific
  | _ => reserved

end TagClass

/-- The identifier and length of an element. -/
structure Header where
  tagClass : TagClass
  constructed : Bool
  number : Nat
  length : Nat
  /-- The number of octets that the header itself takes. -/
  size : Nat
deriving DecidableEq, Repr

/-- One element: its header and the octets inside. -/
structure Element where
  header : Header
  content : Bytes
deriving DecidableEq, Repr

namespace Element

/-- The number of the element's tag. -/
def number (e : Element) : Nat := e.header.number

end Element

/-! The numbers of the universal tags. -/

namespace TagNumber

def boolean : Nat := 1
def integer : Nat := 2
def bitString : Nat := 3
def octetString : Nat := 4
def objectIdentifier : Nat := 6
def objectDescriptor : Nat := 7
def enumerated : Nat := 10
def utf8String : Nat := 12
def sequence : Nat := 16
def set : Nat := 17
def numericString : Nat := 18
def printableString : Nat := 19
def t61String : Nat := 20
def videotexString : Nat := 21
def ia5String : Nat := 22
def utcTime : Nat := 23
def generalizedTime : Nat := 24
def graphicString : Nat := 25
def visibleString : Nat := 26
def generalString : Nat := 27
def bmpString : Nat := 30

end TagNumber

/-- The remaining octets of a tag number, seven bits each, kept to 32 bits. At most five octets. -/
def readLongTag : Nat → Nat → Nat → Bytes → Option (Nat × Nat × Bytes)
  | 0, _, _, _ => none
  | _ + 1, _, _, [] => none
  | bound + 1, size, value, b :: rest =>
      let value := (value * 128 + b.toNat % 128) % Nat.pow 2 32
      if b.toNat < 128 then some (value, size + 1, rest)
      else readLongTag bound (size + 1) value rest

/-- Class, constructed bit, tag number and the number of octets they take. -/
def readTag : Bytes → Option (TagClass × Bool × Nat × Nat × Bytes)
  | [] => none
  | b :: rest => do
      let tagClass := TagClass.ofBits (b.toNat / 64)
      let constructed := b.toNat / 32 % 2 == 1
      if b.toNat % 32 = 31 then
        let (number, size, rest) ← readLongTag 5 1 0 rest
        some (tagClass, constructed, number, size, rest)
      else some (tagClass, constructed, b.toNat % 32, 1, rest)

/-- A definite length, the number of octets it takes, and what follows. A long form may hold any
number of octets whose value fits in 64 bits. -/
def readLength : Bytes → Option (Nat × Nat × Bytes)
  | [] => none
  | b :: rest =>
      let n := b.toNat
      if n < 128 then some (n, 1, rest)
      else
        let size := n - 128
        if size = 0 ∨ size = 127 ∨ rest.length < size then none
        else
          let length := Bytes.toNat (rest.take size)
          if length < Nat.pow 2 64 then some (length, 1 + size, rest.drop size) else none

/-- The header at the start of an octet string and what follows it. -/
def readHeader (b : Bytes) : Option (Header × Bytes) := do
  let (tagClass, constructed, number, tagSize, rest) ← readTag b
  let (length, lengthSize, rest) ← readLength rest
  some (⟨tagClass, constructed, number, length, tagSize + lengthSize⟩, rest)

/-- The element at the start of an octet string and what follows it. -/
def readElement (b : Bytes) : Option (Element × Bytes) := do
  let (header, rest) ← readHeader b
  if rest.length < header.length then none
  else some (⟨header, rest.take header.length⟩, rest.drop header.length)

end Mrtd.Asn1
