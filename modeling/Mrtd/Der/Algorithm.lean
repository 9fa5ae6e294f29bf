import Mrtd.Der.SetOrder

/-!
Algorithm identifiers: a name with optional parameters.
-/

namespace Mrtd.Der

open Asn1 (ObjectIdentifier)

/-- An algorithm identifier. -/
structure Algorithm where
  oid : ObjectIdentifier
  parameters : Option Element
deriving DecidableEq, Repr

namespace Algorithm

def ofElement? : Element → Option Algorithm :=
  fieldsOf? Tag.sequence do
    let oid ← Fields.read Oid.ofElement?
    let parameters ← Fields.next?
    pure ⟨oid, parameters⟩

def element (a : Algorithm) : Element :=
  construct Tag.sequence (Oid.element a.oid :: a.parameters.toList)

/-- The order of identifiers: length, name, parameters. -/
def order (a b : Algorithm) : Ordering :=
  (Element.compareHeader a.element b.element).then <|
    (Element.order (Oid.element a.oid) (Oid.element b.oid)).then <|
      optionalOrder Element.order a.parameters b.parameters

end Algorithm

end Mrtd.Der
