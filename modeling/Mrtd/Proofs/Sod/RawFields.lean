import Mrtd.Proofs.Der.Canonical
import Mrtd.Proofs.Sod.Wrapper

/-!
The fields that are found without decoding them. Octets are split into elements, and the signed
attributes are looked for in the first elements of the last. Splitting takes every octet exactly once:
it succeeds exactly on the encodings of elements one after the other, and on anything else it stops
where no element begins. So what is found stands in the input octet for octet.
-/

namespace Mrtd

open Der

namespace Cms.ContentInfo

/-- Content of a type is its encoding, which leaves nothing open. -/
theorem element_of_ofElement? {e : Element} {info : ContentInfo} (h : ofElement? e = some info) :
    info.element = e := by
  obtain ⟨htag, es, helements, hfields⟩ := fieldsOf?_eq_some h
  obtain ⟨type, _, _, rfl, htype, hrest⟩ := Fields.read_bind_eq_some_iff.1 hfields
  obtain ⟨found, _, hfound, hpure⟩ := Fields.bind_eq_some_iff.1 hrest
  rcases Fields.readContext_zero_cases hfound with ⟨rfl, _⟩ | ⟨field, content, rfl, rfl, hinner⟩
  · cases hpure
  · obtain ⟨rfl, rfl⟩ := Fields.pure_eq_some_iff.1 hpure
    obtain ⟨hcontext, inside, hinside, hread⟩ := fieldsOf?_eq_some hinner
    obtain ⟨inner, rfl, hsame⟩ := Fields.read_eq_some_iff.1 hread
    obtain rfl : inner = content := Option.some.inj hsame
    rw [element, Oid.element_of_ofElement? htype, construct_of_elements? hcontext hinside,
      construct_of_elements? htag helements]

end Cms.ContentInfo

namespace Sod.SecurityObject

open Cms

variable {b octets : Bytes} {e element : Element} {es : List Element} {raw : Option Bytes}
  {d : SignedData} {so : SecurityObject}

/-- Elements are found exactly if the octets are their encodings one after the other. -/
theorem readAll_eq_ok_iff_encodeAll : readAll b = .ok es ↔
    b.length ≤ maxLength ∧ encodeAll es = b ∧ ∀ e ∈ es, isTag e.tag = true := by
  rw [readAll_eq_ok_iff, elements?_eq_some_iff]
  constructor
  · rintro ⟨hlength, hoctets, hreadable⟩
    exact ⟨hlength, hoctets, fun e he => (hreadable e he).1⟩
  · rintro ⟨hlength, rfl, htags⟩
    refine ⟨hlength, rfl, fun e he => ⟨htags e he, ?_⟩⟩
    exact Nat.le_trans (length_content_le_encodeAll he) hlength

/-- The signed attributes among the fields of signer information, as they are signed. -/
def attributeOctets? (fields : List Element) : Option Bytes :=
  (fields.find? (·.tag == Tag.constructedContext 0)).map fun field =>
    Element.encode ⟨Tag.set, field.content⟩

/-- Octets are the fields of signed data; in the last of them lies signer information, and in the
first of that lie fields of its own. -/
structure IsLaidOut (b : Bytes) (data signers fields : List Element) : Prop where
  octets : encodeAll data = b
  last : ∃ set ∈ data.getLast?, encodeAll signers = set.content
  first : ∃ info ∈ signers.head?, encodeAll fields = info.content
  known : ∀ field ∈ data ++ signers ++ fields, isTag field.tag = true

/-- What is found are the fields that the octets consist of. -/
theorem rawSignedAttributes_eq_ok_iff_isLaidOut : rawSignedAttributes e = .ok raw ↔
    e.content.length ≤ maxLength ∧ ∃ data signers fields,
      IsLaidOut e.content data signers fields ∧ raw = attributeOctets? fields := by
  rw [rawSignedAttributes_eq_ok_iff]
  constructor
  · rintro ⟨data, set, signers, first, fields, hdata, hset, hsigners, hfirst, hfields, rfl⟩
    obtain ⟨hlength, hdata, hdataTags⟩ := readAll_eq_ok_iff_encodeAll.1 hdata
    obtain ⟨_, hsigners, hsignerTags⟩ := readAll_eq_ok_iff_encodeAll.1 hsigners
    obtain ⟨_, hfields, hfieldTags⟩ := readAll_eq_ok_iff_encodeAll.1 hfields
    refine ⟨hlength, data, signers, fields, ?_, rfl⟩
    refine ⟨hdata, ⟨set, hset, hsigners⟩, ⟨first, hfirst, hfields⟩, ?_⟩
    simp only [List.mem_append]
    rintro field ((hfield | hfield) | hfield)
    · exact hdataTags field hfield
    · exact hsignerTags field hfield
    · exact hfieldTags field hfield
  · rintro ⟨hlength, data, signers, fields, ⟨hdata, ⟨set, hset, hsigners⟩, ⟨first, hfirst, hfields⟩,
      hknown⟩, rfl⟩
    -- What lies inside is not longer than what it lies in.
    have hsetLength : set.content.length ≤ maxLength :=
      Nat.le_trans (hdata ▸ length_content_le_encodeAll (List.mem_of_getLast? hset)) hlength
    have hfirstLength : first.content.length ≤ maxLength :=
      Nat.le_trans (hsigners ▸ length_content_le_encodeAll (List.mem_of_mem_head? hfirst))
        hsetLength
    simp only [List.mem_append] at hknown
    refine ⟨data, set, signers, first, fields, ?_, hset, ?_, hfirst, ?_, rfl⟩
    · exact readAll_eq_ok_iff_encodeAll.2 ⟨hlength, hdata, fun e he => hknown e (.inl (.inl he))⟩
    · exact readAll_eq_ok_iff_encodeAll.2
        ⟨hsetLength, hsigners, fun e he => hknown e (.inl (.inr he))⟩
    · exact readAll_eq_ok_iff_encodeAll.2 ⟨hfirstLength, hfields, fun e he => hknown e (.inr he)⟩

/-- The element with signed data is all that is left open in the octets without the tag. -/
theorem unwrap_of_signedData (h : signedData octets = .ok (element, d)) :
    unwrap octets = .ok (ContentInfo.element ⟨signedDataOid, element⟩).encode := by
  obtain ⟨inner, hunwrap, h⟩ := bind_eq_ok_iff.1 h
  split at h
  · cases h
  · rename_i info hinfo
    obtain ⟨outer, houter, hcontent⟩ := Option.bind_eq_some_iff.1 hinfo
    split at h
    · cases h
    · rename_i htype
      split at h
      · obtain ⟨rfl, _⟩ := Prod.mk.inj (Except.ok.inj h)
        rw [← not_not.1 htype, ContentInfo.element_of_ofElement? hcontent,
          ← encode_of_decode? houter]
        exact hunwrap
      · cases h

/-- What a security object tells as signed stands in the input. -/
theorem signedBytes_of_decode (h : decode octets = .ok so) :
    ∃ element data signers fields,
      unwrap octets = .ok (ContentInfo.element ⟨signedDataOid, element⟩).encode ∧
        IsLaidOut element.content data signers fields ∧
          so.signedBytes = (attributeOctets? fields).getD so.content := by
  obtain ⟨element, d, _, hdata, _, _, _, _, _, raw, hraw, hsigned⟩ := decode_cases h
  obtain ⟨_, data, signers, fields, hlaid, rfl⟩ :=
    rawSignedAttributes_eq_ok_iff_isLaidOut.1 hraw
  exact ⟨element, data, signers, fields, unwrap_of_signedData hdata, hlaid,
    (signedBytesOf_eq hsigned).1⟩

/-- Within the limit on lengths, octets are split into elements exactly if they are the encodings of
these one after the other, and all others are refused where no further element begins. The signed
attributes are found in the fields that the octets consist of; those of a security object are fields
of the input. -/
theorem readAll_lossless (b : Bytes) (h : b.length ≤ maxLength) :
    (∀ es, readAll b = .ok es ↔ encodeAll es = b ∧ ∀ e ∈ es, isTag e.tag = true) ∧
    (∀ fault, readAll b = .error fault ↔
      fault = .malformedElement ∧ ∃ es rest, BreaksOff b es rest) ∧
    (∀ tag raw, rawSignedAttributes ⟨tag, b⟩ = .ok raw ↔
      ∃ data signers fields, IsLaidOut b data signers fields ∧ raw = attributeOctets? fields) ∧
    ∀ so, decode b = .ok so →
      ∃ element data signers fields,
        (b = (ContentInfo.element ⟨signedDataOid, element⟩).encode ∨
          b = Element.encode ⟨wrapperTag, (ContentInfo.element ⟨signedDataOid, element⟩).encode⟩) ∧
        IsLaidOut element.content data signers fields ∧
        so.signedBytes = (attributeOctets? fields).getD so.content := by
  refine ⟨fun es => ?_, fun fault => ?_, fun tag raw => ?_, fun so hdecode => ?_⟩
  · rw [readAll_eq_ok_iff_encodeAll]
    exact and_iff_right h
  · rw [readAll_eq_error_iff, ← elements?_eq_none_iff]
    constructor
    · rintro (⟨hlong, _⟩ | ⟨_, hnone, rfl⟩)
      · exact absurd h (Nat.not_le.2 hlong)
      · exact ⟨rfl, hnone⟩
    · rintro ⟨rfl, hnone⟩
      exact .inr ⟨h, hnone, rfl⟩
  · rw [rawSignedAttributes_eq_ok_iff_isLaidOut]
    exact and_iff_right h
  · obtain ⟨element, data, signers, fields, hunwrap, hlaid, hsigned⟩ :=
      signedBytes_of_decode hdecode
    refine ⟨element, data, signers, fields, ?_, hlaid, hsigned⟩
    rcases unwrap_eq_ok_iff.1 hunwrap with ⟨hwrapped, _⟩ | ⟨hbare, _⟩
    · exact .inr hwrapped
    · exact .inl hbare

end Sod.SecurityObject

namespace Specimen

open Cms Sod SecurityObject

/-- An object that begins with one element is split into that element; with an octet behind it that
begins no other, it is refused. -/
theorem swapped_lossless :
    swapped.length ≤ maxLength ∧ decode swapped = .ok swappedObject ∧
      (∃ e, readAll swapped = .ok [e]) ∧
      (swapped ++ [0x00]).length ≤ maxLength ∧
      readAll (swapped ++ [0x00]) = .error .malformedElement ∧
      ∃ element data signers fields,
        (swapped = (ContentInfo.element ⟨signedDataOid, element⟩).encode ∨
          swapped = Element.encode
            ⟨wrapperTag, (ContentInfo.element ⟨signedDataOid, element⟩).encode⟩) ∧
        IsLaidOut element.content data signers fields ∧
        swappedObject.signedBytes = (attributeOctets? fields).getD swappedObject.content := by
  have hlonger : (swapped ++ [0x00]).length ≤ maxLength := by decide +kernel
  have hlength : swapped.length ≤ maxLength := by
    rw [List.length_append] at hlonger
    omega
  obtain ⟨hsplit, _, _, hobject⟩ := readAll_lossless swapped hlength
  obtain ⟨_, hrefused, _⟩ := readAll_lossless (swapped ++ [0x00]) hlonger
  obtain ⟨e, hencode, hreadable⟩ : ∃ e : Element, swapped = e.encode ∧ e.IsReadable :=
    (Option.isSome_iff_exists.1 (by decide +kernel : (decode? swapped).isSome = true)).imp
      fun _ => decode?_eq_some_iff.1
  have hall : encodeAll [e] = swapped := by
    rw [encodeAll_cons, hencode]
    exact List.append_nil _
  have hbreak : BreaksOff (swapped ++ [0x00]) [e] [0x00] :=
    { octets := by rw [hall]
      readable := by simpa using hreadable
      left := by simp
      stuck := readElement_eq_none_iff.1 (by decide) }
  exact ⟨hlength, decode_swapped, ⟨e, (hsplit [e]).2 ⟨hall, by simpa using hreadable.1⟩⟩, hlonger,
    (hrefused _).2 ⟨rfl, [e], [0x00], hbreak⟩, hobject swappedObject decode_swapped⟩

end Specimen

end Mrtd
