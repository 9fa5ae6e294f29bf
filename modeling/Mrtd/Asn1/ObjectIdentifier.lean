import Mrtd.Bytes

/-!
Object identifiers by their contents octets, and their dotted form.
-/

namespace Mrtd.Asn1

/-- An object identifier: the contents octets of its encoding. -/
structure ObjectIdentifier where
  octets : Bytes
deriving DecidableEq, Repr

namespace ObjectIdentifier

/-- The arcs after the first octet, each in base 128 with the high bit on all but its last octet,
paired with the number of octets. An unfinished last arc counts as it stands. -/
def arcsFrom (value size : Nat) : Bytes → List (Nat × Nat)
  | [] => if size = 0 then [] else [(value, size)]
  | b :: rest =>
      let value := value * 128 + b.toNat % 128
      if b.toNat < 128 then (value, size + 1) :: arcsFrom 0 0 rest
      else arcsFrom value (size + 1) rest

/-- Numbers joined by dots. -/
def joinDots (numbers : List Nat) : String :=
  ".".intercalate (numbers.map toString)

/-- The dotted form. The first octet stands for two arcs, its quotient and its remainder by forty.
Without octets it is empty; an arc of more than nine octets turns the whole into spaced hex. -/
def dotted (o : ObjectIdentifier) : String :=
  match o.octets with
  | [] => ""
  | [0] => "0"
  | first :: rest =>
      let arcs := arcsFrom 0 0 rest
      if arcs.any fun (_, size) => 9 < size then
        " ".intercalate (o.octets.map fun b => Bytes.toHex [b])
      else joinDots (first.toNat / 40 :: first.toNat % 40 :: arcs.map Prod.fst)

end ObjectIdentifier

end Mrtd.Asn1
