import Mrtd.Asn1.Name
import Mrtd.Der.Name
import Mrtd.Proofs.Asn1.Element
import Mrtd.Proofs.Der.Written

/-!
Names that were written in the distinguished encoding, read by the tolerant reader. It finds the
attributes that were written, in the same order.
-/

namespace Mrtd.Asn1

open Der (construct encodeAll encodeAll_cons)

variable {α β : Type}

namespace Reader

variable {b rest left : Bytes} {r : Reader α} {a : α} {es : List Der.Element} {tag : UInt8}

theorem bind_ok {g : α → Reader β} (h : r b = .ok (a, left)) : (r >>= g) b = g a left := by
  change (r b >>= fun taken => g taken.1 taken.2) = _
  rw [h]
  rfl

theorem ensure_bind {condition : Bool} {g : Unit → Reader β} (h : condition = true) :
    (ensure condition >>= g) b = g () b := by
  rw [ensure, if_pos h]
  rfl

theorem element_encode {e : Der.Element} (htag : e.tag.toNat % 32 ≠ 31)
    (hlength : e.content.length ≤ Der.maxLength) :
    element (e.encode ++ rest) = .ok (.ofDer e, rest) := by
  rw [element, ofOption, readElement_encode htag hlength]

/-- The fields of a constructed element are read from what it was put together of. -/
theorem fieldsOf_encode {number : Nat} (hconstructed : tag.toNat / 32 % 2 = 1)
    (hnumber : tag.toNat % 32 = number) (hone : number ≠ 31)
    (hlength : (encodeAll es).length ≤ Der.maxLength)
    (h : ∃ left, r (encodeAll es) = .ok (a, left)) :
    fieldsOf number r ((construct tag es).encode ++ rest) = .ok (a, rest) := by
  obtain ⟨left, h⟩ := h
  have htag : (construct tag es).tag.toNat % 32 ≠ 31 := by
    rw [construct, hnumber]
    exact hone
  have hbit : (Element.ofDer (construct tag es)).header.constructed = true :=
    beq_iff_eq.2 hconstructed
  have hmatch : ((Element.ofDer (construct tag es)).number == number) = true :=
    beq_iff_eq.2 hnumber
  have hcontent : (Element.ofDer (construct tag es)).content = encodeAll es := rfl
  rw [fieldsOf, bind_ok (element_encode htag hlength), hbit]
  simp only [Bool.not_true, Bool.false_eq_true, if_false, ensure_bind hmatch]
  rw [within, hcontent, h]
  rfl

theorem sequence_encode (hlength : (encodeAll es).length ≤ Der.maxLength)
    (h : ∃ left, r (encodeAll es) = .ok (a, left)) :
    sequence r ((construct Der.Tag.sequence es).encode ++ rest) = .ok (a, rest) :=
  fieldsOf_encode (by decide) rfl (by decide) hlength h

theorem set_encode (hlength : (encodeAll es).length ≤ Der.maxLength)
    (h : ∃ left, r (encodeAll es) = .ok (a, left)) :
    set r ((construct Der.Tag.set es).encode ++ rest) = .ok (a, rest) :=
  fieldsOf_encode (by decide) rfl (by decide) hlength h

theorem fieldsOf_nil {number : Nat} : fieldsOf number r [] = .error .absent := rfl

theorem objectIdentifier_encode {o : ObjectIdentifier} (hlength : o.octets.length ≤ Der.maxLength) :
    objectIdentifier ((Der.Oid.element o).encode ++ rest) = .ok (o, rest) := by
  have htag : Der.Tag.objectIdentifier.toNat % 32 ≠ 31 := by decide
  have hprimitive : (!(Element.ofDer (Der.Oid.element o)).header.constructed) = true := by
    change (!(Der.Tag.objectIdentifier.toNat / 32 % 2 == 1)) = true
    decide
  rw [objectIdentifier, bind_ok (element_encode htag hlength), ensure_bind hprimitive]
  rfl

/-- Values are read one after the other, up to the end. -/
theorem many_encodeAll {write : β → Der.Element} {value : β → α} {bs : List β} {bound : Nat}
    (hbound : bs.length ≤ bound)
    (hread : ∀ b ∈ bs, ∀ rest, r ((write b).encode ++ rest) = .ok (value b, rest))
    (hend : r [] = .error .absent) :
    many r bound (encodeAll (bs.map write)) = .ok (bs.map value, []) := by
  induction bs generalizing bound with
  | nil =>
      cases bound with
      | zero => rfl
      | succ bound =>
          have hnone : optional r [] = .ok (none, []) := by rw [optional, hend]
          rw [List.map_nil, many]
          exact bind_ok hnone
  | cons b rest ih =>
      obtain ⟨hfirst, hrest⟩ := List.forall_mem_cons.1 hread
      cases bound with
      | zero => cases hbound
      | succ bound =>
          have hsome : optional r ((write b).encode ++ encodeAll (rest.map write)) =
              .ok (some (value b), encodeAll (rest.map write)) := by rw [optional, hfirst]
          have hlater := ih (Nat.le_of_succ_le_succ hbound) hrest
          rw [List.map_cons, encodeAll_cons, many, bind_ok hsome]
          exact bind_ok hlater

theorem all_encodeAll {write : β → Der.Element} {value : β → α} {bs : List β}
    (hread : ∀ b ∈ bs, ∀ rest, r ((write b).encode ++ rest) = .ok (value b, rest))
    (hend : r [] = .error .absent) :
    all r (encodeAll (bs.map write)) = .ok (bs.map value, []) := by
  have hbound : bs.length ≤ (encodeAll (bs.map write)).length := by
    have hlength : (bs.map write).length ≤ (encodeAll (bs.map write)).length :=
      Der.length_le_encodeAll
    rwa [List.length_map] at hlength
  exact many_encodeAll hbound hread hend

end Reader

/-- An attribute in the distinguished encoding, as the tolerant reader presents it. -/
def Attribute.ofDer (a : Der.NameAttribute) : Attribute := ⟨a.type, .ofDer a.value⟩

namespace Name

variable {n : Der.Name}

/-- A name in the distinguished encoding, as the tolerant reader presents it. -/
def ofDer (n : Der.Name) : Name := n.relatives.map fun attributes => attributes.map .ofDer

/-- The tags of all values take one octet. -/
def HasShortTags (n : Der.Name) : Prop :=
  ∀ attributes ∈ n.relatives, ∀ a ∈ attributes, a.value.tag.toNat % 32 ≠ 31

/-- The reader of one attribute. -/
abbrev attributeReader : Reader Attribute :=
  Reader.sequence do
    let type ← Reader.objectIdentifier
    let value ← Reader.element
    pure ⟨type, value⟩

theorem attribute_encode {a : Der.NameAttribute} {rest : Bytes}
    (hlength : a.element.content.length ≤ Der.maxLength) (htag : a.value.tag.toNat % 32 ≠ 31) :
    attributeReader (a.element.encode ++ rest) = .ok (.ofDer a, rest) := by
  have htype : (Der.Oid.element a.type).content.length ≤ Der.maxLength :=
    Nat.le_trans (Der.length_content_le_encodeAll (by simp)) hlength
  have hvalue : a.value.content.length ≤ Der.maxLength :=
    Nat.le_trans (Der.length_content_le_encodeAll (by simp)) hlength
  refine Reader.sequence_encode hlength ⟨[], ?_⟩
  rw [encodeAll_cons, Reader.bind_ok (Reader.objectIdentifier_encode htype), encodeAll_cons,
    Reader.bind_ok (Reader.element_encode htag hvalue)]
  rfl

theorem relative_encode {as : List Der.NameAttribute} {rest : Bytes} (hne : as ≠ [])
    (hlength : (encodeAll (as.map Der.NameAttribute.element)).length ≤ Der.maxLength)
    (htags : ∀ a ∈ as, a.value.tag.toNat % 32 ≠ 31) :
    relative ((construct Der.Tag.set (as.map Der.NameAttribute.element)).encode ++ rest) =
      .ok (as.map .ofDer, rest) := by
  have hread : Reader.all attributeReader (encodeAll (as.map Der.NameAttribute.element)) =
      .ok (as.map .ofDer, []) := by
    refine Reader.all_encodeAll (fun a ha rest => attribute_encode ?_ (htags a ha))
      Reader.fieldsOf_nil
    exact Nat.le_trans (Der.length_content_le_encodeAll (List.mem_map_of_mem ha)) hlength
  have hsome : (!(as.map Attribute.ofDer).isEmpty) = true := by
    simpa using hne
  rw [relative, Reader.bind_ok (Reader.set_encode hlength ⟨[], hread⟩), Reader.ensure_bind hsome]
  rfl

/-- A name is read back attribute by attribute, if no relative name is empty. -/
theorem first?_encode (hlength : n.element.content.length ≤ Der.maxLength)
    (hne : ∀ attributes ∈ n.relatives, attributes ≠ []) (htags : HasShortTags n) :
    reader.first? n.element.encode = some (ofDer n) := by
  have hrelatives : Reader.all relative n.element.content = .ok (ofDer n, []) := by
    refine Reader.all_encodeAll (fun attributes hmem rest => ?_) rfl
    have hmember : construct Der.Tag.set (attributes.map Der.NameAttribute.element) ∈
        n.relatives.map fun attributes =>
          construct Der.Tag.set (attributes.map Der.NameAttribute.element) :=
      List.mem_map_of_mem hmem
    have hshort := Nat.le_trans (Der.length_content_le_encodeAll hmember) hlength
    exact relative_encode (hne attributes hmem) hshort (htags attributes hmem)
  have hread : reader (n.element.encode ++ []) = .ok (ofDer n, []) :=
    Reader.sequence_encode hlength ⟨[], hrelatives⟩
  rw [List.append_nil] at hread
  rw [Reader.first?, hread]

end Name

end Mrtd.Asn1
