import Mrtd.Bytes

/-!
Identifiers made of random octets.
-/

namespace Mrtd.Uuid

/-- Sixteen octets with version four and the usual variant marked in them. -/
def marked (octets : Bytes) : Bytes :=
  octets.mapIdx fun i octet =>
    if i = 6 then octet &&& 0x0F ||| 0x40 else if i = 8 then octet &&& 0x3F ||| 0x80 else octet

/-- The octets between two positions, in hexadecimal. -/
def group (octets : Bytes) (first last : Nat) : String :=
  Bytes.toHex ((octets.take last).drop first)

/-- The text of an identifier: five groups of digits with hyphens between them. -/
def text (octets : Bytes) : String :=
  let octets := marked octets
  "-".intercalate [group octets 0 4, group octets 4 6, group octets 6 8, group octets 8 10,
    group octets 10 16]

end Mrtd.Uuid
