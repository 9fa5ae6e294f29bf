import Mrtd.Der.SetOrder

/-!
Names in the distinguished encoding: relative names in order, the attributes of each sorted.
-/

namespace Mrtd.Der

open Asn1 (ObjectIdentifier)

/-- One attribute of a name. -/
structure NameAttribute where
  type : ObjectIdentifier
  value : Element
deriving DecidableEq, Repr

namespace NameAttribute

def ofElement? : Element → Option NameAttribute :=
  fieldsOf? Tag.sequence do
    let type ← Fields.read Oid.ofElement?
    let value ← Fields.next
    pure ⟨type, value⟩

def element (a : NameAttribute) : Element :=
  construct Tag.sequence [Oid.element a.type, a.value]

def order (a b : NameAttribute) : Ordering :=
  Element.order a.element b.element

end NameAttribute

/-- A name: the attributes of each relative name. -/
structure Name where
  relatives : List (List NameAttribute)
deriving DecidableEq, Repr

namespace Name

def ofElement? (e : Element) : Option Name :=
  (membersOf? Tag.sequence
    (setOf? Tag.set NameAttribute.ofElement? NameAttribute.order) e).map Name.mk

def element (n : Name) : Element :=
  construct Tag.sequence
    (n.relatives.map fun attributes => construct Tag.set (attributes.map NameAttribute.element))

end Name

end Mrtd.Der
