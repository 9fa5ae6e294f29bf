import Mrtd.Proofs.Der.Written
import Mrtd.Proofs.Sod.Signers

/-!
The application tag around a security object. What is read depends on the octets only through what is
left without the tag, so an object is read alike with the tag and without it. Octets that begin with
the tag but are not one element are refused, whatever is wrong with them.
-/

namespace Mrtd

namespace Sod.SecurityObject

open Der

variable {octets inner : Bytes} {fault : Fault}

/-- The tag is taken off an element of any length that can be read. -/
theorem unwrap_encode (h : inner.length ≤ maxLength) :
    unwrap (Element.encode ⟨wrapperTag, inner⟩) = .ok inner := by
  have htag : isTag wrapperTag = true := by decide
  have hread : decode? (Element.encode ⟨wrapperTag, inner⟩) = some ⟨wrapperTag, inner⟩ :=
    decode?_encode ⟨htag, h⟩
  rw [Element.encode, List.cons_append] at hread ⊢
  rw [unwrap, if_pos rfl, hread]

/-- Octets that begin as signed data does are left as they are. -/
theorem unwrap_of_head (h : octets.head? = some Tag.sequence) : unwrap octets = .ok octets := by
  obtain ⟨rest, rfl⟩ := List.head?_eq_some_iff.1 h
  rw [unwrap, if_neg (by decide), if_pos rfl]

/-- What is left is the contents of an element with the tag, or all of what begins as signed data. -/
theorem unwrap_eq_ok_iff : unwrap octets = .ok inner ↔
    (octets = Element.encode ⟨wrapperTag, inner⟩ ∧ inner.length ≤ maxLength) ∨
      (octets = inner ∧ octets.head? = some Tag.sequence) := by
  constructor
  · intro h
    unfold unwrap at h
    split at h
    · cases h
    · rename_i tag rest
      split at h
      · rename_i htag
        split at h
        · rename_i e hread
          obtain rfl := Except.ok.inj h
          obtain ⟨tag', content⟩ := e
          obtain ⟨hencode, _, hlength⟩ := decode?_eq_some_iff.1 hread
          obtain rfl : wrapperTag = tag' := htag.symm.trans (List.cons.inj hencode).1
          exact .inl ⟨hencode, hlength⟩
        · cases h
      · split at h
        · rename_i htag
          exact .inr ⟨Except.ok.inj h, congrArg some htag⟩
        · cases h
  · rintro (⟨rfl, hlength⟩ | ⟨rfl, hhead⟩)
    · exact unwrap_encode hlength
    · exact unwrap_of_head hhead

/-- Octets that begin with the tag and are no element are refused. -/
theorem unwrap_eq_malformedWrapper (h : octets.head? = some wrapperTag)
    (hother : ∀ content, content.length ≤ maxLength →
      octets ≠ Element.encode ⟨wrapperTag, content⟩) :
    unwrap octets = .error .malformedWrapper := by
  obtain ⟨rest, rfl⟩ := List.head?_eq_some_iff.1 h
  have hrefused (inner : Bytes) : unwrap (wrapperTag :: rest) ≠ .ok inner := by
    intro hinner
    rcases unwrap_eq_ok_iff.1 hinner with ⟨hencode, hlength⟩ | ⟨_, hhead⟩
    · exact hother inner hlength hencode
    · cases hhead
  rw [unwrap, if_pos rfl] at hrefused ⊢
  split at hrefused
  · exact absurd rfl (hrefused _)
  · rfl

/-- Without the tag the octets are all that is looked at. -/
theorem decode_eq_of_unwrap_eq (h : unwrap octets = unwrap inner) : decode octets = decode inner := by
  rw [decode, decode, signedData, signedData, h]

theorem decode_eq_error_of_unwrap (h : unwrap octets = .error fault) :
    decode octets = .error fault.error := by
  rw [decode, signedData, h]
  rfl

/-- With the tag around it an object is read as without it, and octets that begin with the tag and
are no element of a length that can be read are refused. -/
theorem decode_wrapper (octets : Bytes) :
    (octets.head? = some 0x30 → (Element.encode ⟨0x77, octets⟩).length ≤ maxLength →
      decode (Element.encode ⟨0x77, octets⟩) = decode octets) ∧
    (octets.head? = some 0x77 →
      (∀ content, content.length ≤ maxLength → octets ≠ Element.encode ⟨0x77, content⟩) →
      ∃ reason, decode octets = .error (.sodDecode reason)) := by
  constructor
  · intro hhead hlength
    have hcontent : octets.length ≤ maxLength :=
      Nat.le_trans (Element.length_content_le_encode (e := ⟨0x77, octets⟩)) hlength
    exact decode_eq_of_unwrap_eq ((unwrap_encode hcontent).trans (unwrap_of_head hhead).symm)
  · intro hhead hother
    exact ⟨_, decode_eq_error_of_unwrap (unwrap_eq_malformedWrapper hhead hother)⟩

end Sod.SecurityObject

namespace Specimen

open Der Sod SecurityObject

/-- An object with the tag around it, and the same with a length that is left open. -/
def wrapped : Bytes := Element.encode ⟨wrapperTag, swapped⟩
def openWrapped : Bytes := [0x77, 0x80] ++ swapped ++ [0x00, 0x00]

theorem decode_wrapped :
    swapped.head? = some 0x30 ∧ (Element.encode ⟨0x77, swapped⟩).length ≤ maxLength ∧
      decode wrapped = decode swapped ∧
    openWrapped.head? = some 0x77 ∧
      (∀ content, content.length ≤ maxLength → openWrapped ≠ Element.encode ⟨0x77, content⟩) ∧
      ∃ reason, decode openWrapped = .error (.sodDecode reason) := by
  have hhead : swapped.head? = some 0x30 := by decide
  have hlength : (Element.encode ⟨0x77, swapped⟩).length ≤ maxLength := by decide +kernel
  have hopen : openWrapped.head? = some 0x77 := by decide
  have hother : ∀ content, content.length ≤ maxLength →
      openWrapped ≠ Element.encode ⟨0x77, content⟩ := by
    intro content hcontent heq
    have htag : isTag 0x77 = true := by decide
    have hnone : decode? openWrapped = none := by decide
    rw [decode?_eq_some_iff.2 ⟨heq, htag, hcontent⟩] at hnone
    cases hnone
  exact ⟨hhead, hlength, (decode_wrapper swapped).1 hhead hlength, hopen, hother,
    (decode_wrapper openWrapped).2 hopen hother⟩

end Specimen

end Mrtd
