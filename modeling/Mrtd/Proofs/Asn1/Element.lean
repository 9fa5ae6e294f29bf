import Mrtd.Asn1.Element
import Mrtd.Proofs.Der.Elements

/-!
What the tolerant reader of elements takes. It takes the octets of one element from the front of its
input and does not look at those behind it; and an element in the distinguished encoding is taken as
what it is.
-/

namespace Mrtd.Asn1

variable {b rest : Bytes}

theorem readLongTag_front {bound size value number taken : Nat}
    (h : readLongTag bound size value b = some (number, taken, rest)) :
    ∃ front, b = front ++ rest ∧
      ∀ rest', readLongTag bound size value (front ++ rest') = some (number, taken, rest') := by
  induction bound generalizing size value b with
  | zero => cases h
  | succ bound ih =>
      cases b with
      | nil => cases h
      | cons octet tail =>
          rw [readLongTag] at h
          split at h
          · rename_i hlast
            obtain ⟨rfl, rfl, rfl⟩ : _ ∧ _ ∧ _ := by simpa using h
            refine ⟨[octet], rfl, fun rest' => ?_⟩
            rw [List.singleton_append, readLongTag, if_pos hlast]
          · rename_i hmore
            obtain ⟨front, rfl, hfront⟩ := ih h
            refine ⟨octet :: front, rfl, fun rest' => ?_⟩
            rw [List.cons_append, readLongTag, if_neg hmore, hfront]

theorem readTag_front {tagClass : TagClass} {constructed : Bool} {number taken : Nat}
    (h : readTag b = some (tagClass, constructed, number, taken, rest)) :
    ∃ front, b = front ++ rest ∧
      ∀ rest', readTag (front ++ rest') = some (tagClass, constructed, number, taken, rest') := by
  cases b with
  | nil => cases h
  | cons octet tail =>
      simp only [readTag] at h
      split at h
      · rename_i hlong
        obtain ⟨⟨n, s, left⟩, hread, hsome⟩ := Option.bind_eq_some_iff.1 h
        obtain ⟨rfl, rfl, rfl, rfl, rfl⟩ : _ ∧ _ ∧ _ ∧ _ ∧ _ := by simpa using hsome
        obtain ⟨front, rfl, hfront⟩ := readLongTag_front hread
        refine ⟨octet :: front, rfl, fun rest' => ?_⟩
        simp only [List.cons_append, readTag, if_pos hlong, hfront, Option.bind_eq_bind,
          Option.bind_some]
      · rename_i hshort
        obtain ⟨rfl, rfl, rfl, rfl, rfl⟩ : _ ∧ _ ∧ _ ∧ _ ∧ _ := by simpa using h
        refine ⟨[octet], rfl, fun rest' => ?_⟩
        simp only [List.singleton_append, readTag, if_neg hshort]

theorem readLength_front {length taken : Nat} (h : readLength b = some (length, taken, rest)) :
    ∃ front, b = front ++ rest ∧
      ∀ rest', readLength (front ++ rest') = some (length, taken, rest') := by
  cases b with
  | nil => cases h
  | cons octet tail =>
      simp only [readLength] at h
      split at h
      · rename_i hshort
        obtain ⟨rfl, rfl, rfl⟩ : _ ∧ _ ∧ _ := by simpa using h
        refine ⟨[octet], rfl, fun rest' => ?_⟩
        simp only [List.singleton_append, readLength, if_pos hshort]
      · rename_i hlong
        split at h
        · cases h
        · rename_i hsize
          split at h
          · rename_i hvalue
            obtain ⟨rfl, rfl, rfl⟩ : _ ∧ _ ∧ _ := by simpa using h
            simp only [not_or, Nat.not_lt] at hsize
            have htake : (tail.take (octet.toNat - 128)).length = octet.toNat - 128 :=
              List.length_take_of_le hsize.2.2
            refine ⟨octet :: tail.take (octet.toNat - 128), ?_, fun rest' => ?_⟩
            · rw [List.cons_append, List.take_append_drop]
            · have hrest : ¬ (tail.take (octet.toNat - 128) ++ rest').length < octet.toNat - 128 := by
                rw [List.length_append, htake]
                omega
              simp only [List.cons_append, readLength, if_neg hlong]
              rw [if_neg (by simp only [hsize.1, hsize.2.1, hrest, or_self, not_false_eq_true]),
                List.take_left' htake, List.drop_left' htake, if_pos hvalue]
          · cases h

theorem readHeader_front {header : Header} (h : readHeader b = some (header, rest)) :
    ∃ front, b = front ++ rest ∧ ∀ rest', readHeader (front ++ rest') = some (header, rest') := by
  obtain ⟨⟨tagClass, constructed, number, tagSize, afterTag⟩, htag, h⟩ :=
    Option.bind_eq_some_iff.1 h
  obtain ⟨⟨length, lengthSize, afterLength⟩, hlength, h⟩ := Option.bind_eq_some_iff.1 h
  obtain ⟨rfl, rfl⟩ : _ ∧ _ := by simpa using h
  obtain ⟨tagFront, rfl, htagFront⟩ := readTag_front htag
  obtain ⟨lengthFront, rfl, hlengthFront⟩ := readLength_front hlength
  refine ⟨tagFront ++ lengthFront, (List.append_assoc ..).symm, fun rest' => ?_⟩
  simp [readHeader, htagFront, hlengthFront]

/-- An element takes its own octets and does not look at those behind it. -/
theorem readElement_front {e : Element} (h : readElement b = some (e, rest)) :
    ∃ front, b = front ++ rest ∧ ∀ rest', readElement (front ++ rest') = some (e, rest') := by
  obtain ⟨⟨header, afterHeader⟩, hheader, h⟩ := Option.bind_eq_some_iff.1 h
  simp only at h
  split at h
  · cases h
  · rename_i hlength
    obtain ⟨rfl, rfl⟩ : _ ∧ _ := by simpa using h
    obtain ⟨headerFront, rfl, hheaderFront⟩ := readHeader_front hheader
    have htake : (afterHeader.take header.length).length = header.length :=
      List.length_take_of_le (Nat.not_lt.1 hlength)
    refine ⟨headerFront ++ afterHeader.take header.length, ?_, fun rest' => ?_⟩
    · rw [List.append_assoc, List.take_append_drop]
    · have hrest : ¬ (afterHeader.take header.length ++ rest').length < header.length := by
        rw [List.length_append, htake]
        omega
      simp only [readElement, List.append_assoc, hheaderFront, Option.bind_eq_bind,
        Option.bind_some, if_neg hrest, List.take_left' htake, List.drop_left' htake]

/-- An element in the distinguished encoding, as the tolerant reader presents it. -/
def Element.ofDer (e : Der.Element) : Element where
  header :=
    { tagClass := TagClass.ofBits (e.tag.toNat / 64)
      constructed := e.tag.toNat / 32 % 2 == 1
      number := e.tag.toNat % 32
      length := e.content.length
      size := 1 + (Der.lengthOctets e.content.length).length }
  content := e.content

/-- The strict reader of lengths takes what the tolerant one takes. -/
theorem readLength_of_der {n : Nat} (h : Der.readLength b = some (n, rest)) :
    readLength b = some (n, (Der.lengthOctets n).length, rest) := by
  cases b with
  | nil => cases h
  | cons octet tail =>
      rw [Der.readLength] at h
      dsimp only at h
      split at h
      · rename_i hshort
        obtain ⟨rfl, rfl⟩ := Prod.mk.inj (Option.some.inj h)
        simp [readLength, Der.lengthOctets, hshort]
      · rename_i hlong
        split at h
        · cases h
        · rename_i hsize
          split at h
          · rename_i hform
            obtain ⟨hvalue, rfl⟩ := Prod.mk.inj (Option.some.inj h)
            rw [hvalue] at hform
            have hmax : n ≤ 0xFFFFFFF := hform.1
            have hpow : Nat.pow 2 64 = 18446744073709551616 := rfl
            have hcount : (tail.take (octet.toNat - 0x80)).length = octet.toNat - 0x80 :=
              List.length_take_of_le (by omega)
            rw [readLength, if_neg hlong, if_neg (by omega), hvalue, if_pos (by omega), hform.2,
              List.length_cons, hcount, Nat.add_comm]
          · cases h

/-- An element in the distinguished encoding is taken as what it is. Its tag takes one octet. -/
theorem readElement_encode {e : Der.Element} (htag : e.tag.toNat % 32 ≠ 31)
    (hlength : e.content.length ≤ Der.maxLength) (rest : Bytes) :
    readElement (e.encode ++ rest) = some (.ofDer e, rest) := by
  have hread : readLength (Der.lengthOctets e.content.length ++ (e.content ++ rest)) =
      some (e.content.length, (Der.lengthOctets e.content.length).length, e.content ++ rest) :=
    readLength_of_der (Der.readLength_lengthOctets hlength _)
  have hrest : ¬ (e.content ++ rest).length < e.content.length := by
    rw [List.length_append]
    omega
  simp only [readElement, readHeader, Der.Element.encode, List.cons_append, List.append_assoc,
    readTag, if_neg htag, Option.bind_eq_bind, Option.bind_some, hread, if_neg hrest,
    List.take_left, List.drop_left]
  rfl

end Mrtd.Asn1
