import Mrtd.Proofs.Asn1.Name
import Mrtd.Proofs.Cms.Written
import Mrtd.Proofs.SerialNumber
import Mrtd.Proofs.Sod.SecurityTable
import Mrtd.Proofs.Sod.Signers
import Mrtd.Proofs.Text.Utf8

/-!
Security objects that are put together and read again. A composition has what the issuer of a
document decides on: the table, the signer, and the attributes that are signed. Its octets are the
encoding of one signer's signed data without certificates. Reading them gives back every part, the
octets that the signature covers among them, in whatever order the attributes were written.
-/

namespace Mrtd.Sod

open Asn1 (ObjectIdentifier)
open Der Cms

/-- A relative name of one attribute, whose value is text of one of two types. -/
structure NamePart where
  type : ObjectIdentifier
  isUtf8 : Bool
  text : String
  isPermitted : Oid.isPermitted type = true

namespace NamePart

def written (p : NamePart) : NameAttribute :=
  ⟨p.type, ⟨if p.isUtf8 then 0x0C else Tag.printableString, Bytes.ofString p.text⟩⟩

def shown (p : NamePart) : String :=
  (Asn1.Attribute.ofDer p.written).typeText ++ "=" ++ p.text

theorem tag_cases (p : NamePart) :
    p.written.value.tag = 0x0C ∨ p.written.value.tag = Tag.printableString := by
  cases h : p.isUtf8 <;> simp [written, h]

theorem isEncodable_written (p : NamePart) : p.written.IsEncodable := by
  refine ⟨p.isPermitted, ?_⟩
  rcases p.tag_cases with htag | htag <;> rw [htag] <;> decide

theorem text?_written (p : NamePart) :
    (Asn1.Attribute.ofDer p.written).text? = some p.shown := by
  have hvalue : (Asn1.Attribute.ofDer p.written).valueText? = some p.text := by
    have htext : Asn1.Attribute.isOctetText (Asn1.Attribute.ofDer p.written).value.number = true := by
      change Asn1.Attribute.isOctetText (p.written.value.tag.toNat % 32) = true
      rcases p.tag_cases with htag | htag <;> rw [htag] <;> decide
    rw [Asn1.Attribute.valueText?]
    exact (if_pos htext).trans (Text.ofUtf8?_ofString p.text)
  rw [Asn1.Attribute.text?, hvalue]
  rfl

/-- The name of some parts. -/
def name (parts : List NamePart) : Name := ⟨parts.map fun p => [p.written]⟩

theorem isEncodable_name (parts : List NamePart) : (name parts).IsEncodable := by
  intro attributes hattributes
  obtain ⟨p, _, rfl⟩ := List.mem_map.1 hattributes
  refine ⟨List.pairwise_singleton .., ?_⟩
  simpa using p.isEncodable_written

/-- The text of a name has the parts in order. -/
theorem text_name (parts : List NamePart) :
    (Asn1.Name.ofDer (name parts)).text = ", ".intercalate (parts.map shown) := by
  have hparts : (Asn1.Name.ofDer (name parts)).mapM (fun attributes =>
      (attributes.mapM Asn1.Attribute.text?).map (" + ".intercalate ·)) = some (parts.map shown) := by
    simp only [Asn1.Name.ofDer, name, List.map_map, List.mapM_map]
    refine mapM_eq_some_map fun p _ => ?_
    simp [text?_written]
  rw [Asn1.Name.text, hparts]

theorem first?_name {parts : List NamePart}
    (h : (name parts).element.content.length ≤ maxLength) :
    Asn1.Name.reader.first? (name parts).element.encode = some (Asn1.Name.ofDer (name parts)) := by
  refine Asn1.Name.first?_encode h ?_ ?_
  · intro attributes hattributes
    obtain ⟨p, _, rfl⟩ := List.mem_map.1 hattributes
    simp
  · intro attributes hattributes a ha
    obtain ⟨p, _, rfl⟩ := List.mem_map.1 hattributes
    obtain rfl := List.mem_singleton.1 ha
    rcases p.tag_cases with htag | htag <;> rw [htag] <;> decide

end NamePart

/-- A number above zero of at most twenty octets. -/
structure PositiveSerial where
  first : UInt8
  rest : Bytes
  first_ne : first ≠ 0
  length_le : rest.length ≤ 19

namespace PositiveSerial

/-- The contents of the INTEGER. An octet zero keeps the sign positive where it is needed. -/
def content (s : PositiveSerial) : Bytes :=
  if s.first.toNat < 0x80 then s.first :: s.rest else 0 :: s.first :: s.rest

theorem isSerial_content (s : PositiveSerial) : isSerial ⟨Tag.integer, s.content⟩ = true := by
  have hlength : s.content.length ≤ 21 := by
    have hrest := s.length_le
    rw [content]
    split <;> simp only [List.length_cons] <;> omega
  have hminimal : Asn1.Reader.isMinimalInteger s.content = true := by
    rw [content]
    split
    · rename_i hsmall
      have hne : s.first ≠ 0xFF := by
        intro heq
        rw [heq] at hsmall
        exact absurd hsmall (by decide)
      cases hrest : s.rest with
      | nil => rfl
      | cons second more => simp [Asn1.Reader.isMinimalInteger, s.first_ne, hne]
    · rename_i hlarge
      simp [Asn1.Reader.isMinimalInteger]
      omega
  simp [isSerial, hminimal, hlength]

theorem ofBytes_content (s : PositiveSerial) :
    SerialNumber.ofBytes s.content = Bytes.toUpperHex (s.first :: s.rest) := by
  have hoctets := SerialNumber.ofBytes_cons_of_ne s.first_ne s.rest
  rw [content]
  split
  · exact hoctets
  · rw [SerialNumber.ofBytes_zero_cons, hoctets]

end PositiveSerial

/-- How a signer is named. -/
inductive Signer where
  | issuerAndSerial (issuer : List NamePart) (serial : PositiveSerial)
  | subjectKeyId (id : Bytes)

namespace Signer

def identifier : Signer → SignerIdentifier
  | issuerAndSerial issuer serial => .issuerAndSerial (NamePart.name issuer) serial.content
  | subjectKeyId id => .subjectKeyId id

def id : Signer → SignerId
  | issuerAndSerial issuer serial =>
      .issuerAndSerial (", ".intercalate (issuer.map NamePart.shown))
        (Bytes.toUpperHex (serial.first :: serial.rest))
  | subjectKeyId id => .subjectKeyId id.toHex

theorem isEncodable_identifier (s : Signer) : s.identifier.IsEncodable := by
  cases s with
  | issuerAndSerial issuer serial =>
      exact ⟨NamePart.isEncodable_name issuer, serial.isSerial_content⟩
  | subjectKeyId id => trivial

/-- The name that is read is the one that was written. -/
theorem ofIdentifier_identifier {s : Signer} (h : s.identifier.element.IsReadable) :
    SignerId.ofIdentifier s.identifier = .ok s.id := by
  cases s with
  | subjectKeyId id => rfl
  | issuerAndSerial issuer serial =>
      have hname : (NamePart.name issuer).element.content.length ≤ maxLength :=
        Nat.le_trans (length_content_le_encodeAll (by simp)) h.2
      rw [identifier, SignerId.ofIdentifier, NamePart.first?_name hname]
      dsimp only
      rw [NamePart.text_name, serial.ofBytes_content, id]

end Signer

namespace SignedAttributes

/-- The attributes of a message digest, perhaps a content type, and others. -/
def attributesOf (digest : Element) (type : Option Oid.Arcs) (others : List Attribute) :
    List Attribute :=
  ⟨messageDigestOid, [digest]⟩ ::
    (type.map fun arcs => ⟨contentTypeOid, [Oid.element arcs.oid]⟩).toList ++ others

/-- A digest is collected if there is one, and so is a content type. -/
theorem collect_eq {attributes : List Attribute} {digest : Element} {text : String}
    {start : Option Bytes} {type : Option String}
    (hdigest : ∀ a ∈ attributes, a.type = messageDigestOid → a.values = [digest])
    (htype : ∀ a ∈ attributes, a.type = contentTypeOid →
      ∃ e, a.values = [e] ∧ contentTypeOf e = .ok text) :
    collect start type attributes = .ok
      (if messageDigestOid ∈ attributes.map (·.type) then some digest.content else start,
        if contentTypeOid ∈ attributes.map (·.type) then some text else type) := by
  induction attributes generalizing start type with
  | nil => rfl
  | cons a rest ih =>
      obtain ⟨hdigestFirst, hdigestRest⟩ := List.forall_mem_cons.1 hdigest
      obtain ⟨htypeFirst, htypeRest⟩ := List.forall_mem_cons.1 htype
      have hdiffer : contentTypeOid ≠ messageDigestOid := by decide
      by_cases hisDigest : a.type = messageDigestOid
      · have hstep : collect start type (a :: rest) = collect (some digest.content) type rest := by
          rw [collect]
          simp only [hdigestFirst hisDigest, if_pos hisDigest]
        rw [hstep, ih hdigestRest htypeRest]
        simp only [List.map_cons, List.mem_cons, hisDigest, hdiffer, true_or, false_or, if_true,
          ite_self]
      by_cases hisType : a.type = contentTypeOid
      · obtain ⟨e, hvalues, htext⟩ := htypeFirst hisType
        have hstep : collect start type (a :: rest) = collect start (some text) rest := by
          rw [collect]
          simp only [hvalues, if_neg hisDigest, if_pos hisType, htext]
          rfl
        rw [hstep, ih hdigestRest htypeRest]
        simp only [List.map_cons, List.mem_cons, hisType, hdiffer.symm, true_or, false_or, if_true,
          ite_self]
      · have hstep : collect start type (a :: rest) = collect start type rest := by
          rw [collect]
          cases a.values with
          | nil => rfl
          | cons value others => simp only [if_neg hisDigest, if_neg hisType]
        rw [hstep, ih hdigestRest htypeRest]
        simp only [List.map_cons, List.mem_cons, Ne.symm hisDigest, Ne.symm hisType, false_or]

end SignedAttributes

/-- Signed attributes as they are written: in some order, no two of them the same. -/
structure AttributeSet where
  digest : Element
  contentType : Option Oid.Arcs
  others : List Attribute
  written : List Attribute
  perm : written.Perm (SignedAttributes.attributesOf digest contentType others)
  digest_tag : isTag digest.tag = true
  isEncodable : ∀ a ∈ others, a.IsEncodable
  types : ∀ a ∈ others, a.type ≠ SignedAttributes.messageDigestOid ∧
    a.type ≠ SignedAttributes.contentTypeOid
  distinct : others.Pairwise fun a b => ¬ a.Agrees b

namespace AttributeSet

open SignedAttributes

/-- What the attributes say. -/
def signed (s : AttributeSet) : SignedAttributes :=
  ⟨s.digest.content, s.contentType.map fun arcs => ObjectIdentifier.joinDots arcs.all⟩

theorem mem_attributesOf {digest : Element} {type : Option Oid.Arcs} {others : List Attribute}
    {a : Attribute} :
    a ∈ attributesOf digest type others ↔ a = ⟨messageDigestOid, [digest]⟩ ∨
      (∃ arcs, type = some arcs ∧ a = ⟨contentTypeOid, [Oid.element arcs.oid]⟩) ∨ a ∈ others := by
  cases type <;> simp [attributesOf]

theorem isPermitted_messageDigestOid : Oid.isPermitted messageDigestOid = true := by decide

theorem isPermitted_contentTypeOid : Oid.isPermitted contentTypeOid = true := by decide

theorem contentTypeOid_ne_messageDigestOid : contentTypeOid ≠ messageDigestOid := by decide

theorem isEncodable_written (s : AttributeSet) : ∀ a ∈ s.written, a.IsEncodable := by
  intro a ha
  rcases mem_attributesOf.1 (s.perm.subset ha) with rfl | ⟨arcs, _, rfl⟩ | hother
  · refine ⟨isPermitted_messageDigestOid, ?_, List.nodup_singleton _⟩
    simpa using s.digest_tag
  · refine ⟨isPermitted_contentTypeOid, ?_, List.nodup_singleton _⟩
    intro value hvalue
    obtain rfl := List.mem_singleton.1 hvalue
    rfl
  · exact s.isEncodable a hother

theorem distinct_written (s : AttributeSet) :
    s.written.Pairwise fun a b => ¬ a.Agrees b := by
  have hsymm : ∀ {a b : Attribute}, ¬ a.Agrees b → ¬ b.Agrees a :=
    fun h hagrees => h ⟨hagrees.type.symm, hagrees.values.symm⟩
  -- The digest and the content type differ from each other and from the rest by their types.
  refine (s.perm.pairwise_iff hsymm).2 (List.pairwise_append.2 ⟨?_, s.distinct, ?_⟩)
  · refine List.pairwise_cons.2 ⟨fun a ha hagrees => ?_, ?_⟩
    · obtain ⟨arcs, _, rfl⟩ := Option.map_eq_some_iff.1 (Option.mem_toList.1 ha)
      exact contentTypeOid_ne_messageDigestOid hagrees.type.symm
    · cases s.contentType <;> simp
  · intro a ha b hb hagrees
    obtain ⟨hdigest, htype⟩ := s.types b hb
    rcases List.mem_cons.1 ha with rfl | hmem
    · exact hdigest hagrees.type.symm
    · obtain ⟨arcs, _, rfl⟩ := Option.map_eq_some_iff.1 (Option.mem_toList.1 hmem)
      exact htype hagrees.type.symm

/-- What agrees with a written attribute is the digest, the content type or another one. -/
theorem cases_of_agrees (s : AttributeSet) {a b : Attribute} (ha : a ∈ s.written)
    (h : b.Agrees a) :
    b.type = messageDigestOid ∧ b.values = [s.digest] ∨
      (∃ arcs, s.contentType = some arcs ∧ b.type = contentTypeOid ∧
        b.values = [Oid.element arcs.oid]) ∨
      b.type ≠ messageDigestOid ∧ b.type ≠ contentTypeOid := by
  rcases mem_attributesOf.1 (s.perm.subset ha) with rfl | ⟨arcs, harcs, rfl⟩ | hother
  · exact .inl ⟨h.type, List.perm_singleton.1 h.values⟩
  · exact .inr (.inl ⟨arcs, harcs, h.type, List.perm_singleton.1 h.values⟩)
  · rw [h.type]
    exact .inr (.inr (s.types a hother))

theorem contentTypeOf_element (arcs : Oid.Arcs) :
    contentTypeOf (Oid.element arcs.oid) = .ok (ObjectIdentifier.joinDots arcs.all) := by
  rw [contentTypeOf, Oid.ofElement?_element, if_pos arcs.isPermitted_oid]
  dsimp only
  rw [arcs.text_oid]

/-- The attributes that are read say what was written, whatever their order. -/
theorem exists_setOfContext? (s : AttributeSet)
    (h : (construct (Tag.constructedContext 0) (s.written.map Attribute.element)).IsReadable) :
    ∃ sorted, Attribute.setOfContext? 0
        (construct (Tag.constructedContext 0) (s.written.map Attribute.element)) = some sorted ∧
      ofAttributes sorted = .ok s.signed := by
  obtain ⟨sorted, hread, hsound, hcomplete⟩ :=
    Attribute.setOf?_construct s.isEncodable_written s.distinct_written h
  refine ⟨sorted, hread, ?_⟩
  have hcases : ∀ b ∈ sorted, b.type = messageDigestOid ∧ b.values = [s.digest] ∨
      (∃ arcs, s.contentType = some arcs ∧ b.type = contentTypeOid ∧
        b.values = [Oid.element arcs.oid]) ∨
      b.type ≠ messageDigestOid ∧ b.type ≠ contentTypeOid := by
    intro b hb
    obtain ⟨a, ha, hagrees⟩ := hsound b hb
    exact s.cases_of_agrees ha hagrees
  have hhas : ∀ {a : Attribute}, a ∈ attributesOf s.digest s.contentType s.others →
      a.type ∈ sorted.map (·.type) := by
    intro a ha
    obtain ⟨b, hb, hagrees⟩ := hcomplete a (s.perm.symm.subset ha)
    exact List.mem_map.2 ⟨b, hb, hagrees.type⟩
  have hdigest : ∀ b ∈ sorted, b.type = messageDigestOid → b.values = [s.digest] := by
    intro b hb htype
    rcases hcases b hb with ⟨_, hvalues⟩ | ⟨_, _, hother, _⟩ | ⟨hother, _⟩
    · exact hvalues
    · exact absurd (hother.symm.trans htype) contentTypeOid_ne_messageDigestOid
    · exact absurd htype hother
  have hhasDigest : messageDigestOid ∈ sorted.map (·.type) :=
    hhas (mem_attributesOf.2 (.inl rfl))
  cases hcontentType : s.contentType with
  | none =>
      have htype : contentTypeOid ∉ sorted.map (·.type) := by
        intro hmem
        obtain ⟨b, hb, htype⟩ := List.mem_map.1 hmem
        rcases hcases b hb with ⟨hother, _⟩ | ⟨arcs, harcs, _⟩ | ⟨_, hother⟩
        · exact contentTypeOid_ne_messageDigestOid (htype.symm.trans hother)
        · rw [hcontentType] at harcs
          cases harcs
        · exact hother htype
      have hnone : ∀ b ∈ sorted, b.type = contentTypeOid →
          ∃ e, b.values = [e] ∧ contentTypeOf e = .ok "" :=
        fun b hb heq => absurd (List.mem_map.2 ⟨b, hb, heq⟩) htype
      have hcollect : collect none none sorted = .ok (some s.digest.content, none) := by
        rw [collect_eq hdigest hnone, if_pos hhasDigest, if_neg htype]
      rw [ofAttributes, hcollect, signed, hcontentType]
      rfl
  | some arcs =>
      have htype : contentTypeOid ∈ sorted.map (·.type) :=
        hhas (mem_attributesOf.2 (.inr (.inl ⟨arcs, hcontentType, rfl⟩)))
      have hsome : ∀ b ∈ sorted, b.type = contentTypeOid → ∃ e, b.values = [e] ∧
          contentTypeOf e = .ok (ObjectIdentifier.joinDots arcs.all) := by
        intro b hb heq
        rcases hcases b hb with ⟨hother, _⟩ | ⟨arcs', harcs, _, hvalues⟩ | ⟨_, hother⟩
        · exact absurd (heq.symm.trans hother) contentTypeOid_ne_messageDigestOid
        · obtain rfl : arcs = arcs' := Option.some.inj (hcontentType.symm.trans harcs)
          exact ⟨_, hvalues, contentTypeOf_element arcs⟩
        · exact absurd heq hother
      have hcollect : collect none none sorted =
          .ok (some s.digest.content, some (ObjectIdentifier.joinDots arcs.all)) := by
        rw [collect_eq hdigest hsome, if_pos hhasDigest, if_pos htype]
      rw [ofAttributes, hcollect, signed, hcontentType]
      rfl

end AttributeSet

namespace LdsVersion

def number : LdsVersion → Nat
  | v0 => 0
  | v1 _ _ => 1

/-- The texts as they are written. -/
def info : LdsVersion → Option (Element × Element)
  | v0 => none
  | v1 lds unicode =>
      some (⟨Tag.printableString, Bytes.ofString lds⟩, ⟨Tag.printableString, Bytes.ofString unicode⟩)

end LdsVersion

namespace SecurityObject

variable {octets : Bytes} {element : Element} {d : SignedData} {so : SecurityObject}
  {info : SignerInfo} {raw : Option Bytes}

/-- Signed data is read if the octets have it as content of its type. -/
theorem signedData_eq_ok {unwrapped : Bytes} (hunwrap : unwrap octets = .ok unwrapped)
    (hcontent : (decode? unwrapped).bind ContentInfo.ofElement? = some ⟨signedDataOid, element⟩)
    (hread : SignedData.ofElement? element = some d) : signedData octets = .ok (element, d) := by
  refine bind_eq_ok_iff.2 ⟨unwrapped, hunwrap, ?_⟩
  simp only [hcontent, hread, ne_eq, not_true_eq_false, if_false]
  rfl

/-- A security object is read if its parts are. -/
theorem decode_eq_ok (hdata : signedData octets = .ok (element, d))
    (hinfo : d.signers.head? = some info) (htaken : so.TakenFrom info)
    (hembedded : embeddedSignerOf d so.signerId = .ok so.embeddedSigner)
    (hcontent : contentOf d = .ok so.content)
    (htable : SecurityTable.decode so.content = .ok so.table)
    (hraw : rawSignedAttributes element = .ok raw)
    (hsigned : signedBytesOf raw so.signedAttributes so.content = .ok so.signedBytes) :
    decode octets = .ok so := by
  refine bind_eq_ok_iff.2 ⟨_, mapError_eq_ok_iff.2 hdata, ?_⟩
  refine bind_eq_ok_iff.2 ⟨_, mapError_eq_ok_iff.2 hcontent, ?_⟩
  refine bind_eq_ok_iff.2 ⟨_, htable, ?_⟩
  simp only [hinfo]
  refine bind_eq_ok_iff.2 ⟨_, htaken.digestAlgorithm, ?_⟩
  refine bind_eq_ok_iff.2 ⟨_, htaken.signerId, ?_⟩
  refine bind_eq_ok_iff.2 ⟨_, hembedded, ?_⟩
  refine bind_eq_ok_iff.2 ⟨_, htaken.signedAttributes, ?_⟩
  refine bind_eq_ok_iff.2 ⟨_, mapError_eq_ok_iff.2 hraw, ?_⟩
  refine bind_eq_ok_iff.2 ⟨_, hsigned, ?_⟩
  rw [← htaken.signatureAlgorithm, ← htaken.signature]
  rfl

end SecurityObject

/-- What a security object is put together of. -/
structure Composition where
  hash : DigestAlgorithm
  hashParameters : Option Element
  /-- The digests of data groups, in the order in which they are written. -/
  digests : List (Nat × Bytes)
  version : LdsVersion
  dataVersion : Nat
  /-- The digests that signed data announces. -/
  digestAlgorithms : List Algorithm
  signerVersion : Nat
  signer : Signer
  digestAlgorithm : DigestAlgorithm
  digestParameters : Option Element
  signatureAlgorithm : Oid.Arcs
  signatureParameters : Option Element
  attributes : Option AttributeSet
  signature : Bytes
  groups : ∀ entry ∈ digests, EncodedTable.IsGroup entry.1
  distinct : (digests.map Prod.fst).Nodup
  hash_tag : ∀ e ∈ hashParameters, isTag e.tag = true
  dataVersion_le : dataVersion ≤ 5
  announced : ∀ a ∈ digestAlgorithms, a.IsEncodable
  ascends : Ascends Algorithm.order digestAlgorithms
  signerVersion_le : signerVersion ≤ 5
  digest_tag : ∀ e ∈ digestParameters, isTag e.tag = true
  signature_tag : ∀ e ∈ signatureParameters, isTag e.tag = true

namespace Composition

def table (x : Composition) : EncodedTable :=
  ⟨x.version.number, ⟨x.hash.arcs.oid, x.hashParameters⟩, x.digests, x.version.info⟩

def content (x : Composition) : Bytes := x.table.element.encode

def signerInfo (x : Composition) : SignerInfo where
  version := x.signerVersion
  signer := x.signer.identifier
  digestAlgorithm := ⟨x.digestAlgorithm.arcs.oid, x.digestParameters⟩
  signedAttributes := x.attributes.map (·.written)
  signatureAlgorithm := ⟨x.signatureAlgorithm.oid, x.signatureParameters⟩
  signature := x.signature
  unsignedAttributes := none

def data (x : Composition) : SignedData where
  version := x.dataVersion
  digestAlgorithms := x.digestAlgorithms
  content := ⟨SecurityObject.securityTableOid, some ⟨Tag.octetString, x.content⟩⟩
  certificates := none
  crls := none
  signers := [x.signerInfo]

def element (x : Composition) : Element :=
  ContentInfo.element ⟨SecurityObject.signedDataOid, x.data.element⟩

/-- The encoding of the whole. -/
def octets (x : Composition) : Bytes := x.element.encode

/-- What is to be read. -/
def object (x : Composition) : SecurityObject where
  embeddedSigner := none
  signerId := x.signer.id
  digestAlgorithm := x.digestAlgorithm
  signatureAlgorithm := ObjectIdentifier.joinDots x.signatureAlgorithm.all
  table := ⟨x.hash, OrderedTable.ofList compare x.digests, x.version⟩
  signedAttributes := x.attributes.map (·.signed)
  content := x.content
  signedBytes := x.attributes.elim x.content fun s => (Attribute.setElement s.written).encode
  signature := x.signature

variable {x : Composition}

theorem isEncodable_table (h : x.table.element.content.length ≤ maxLength) :
    x.table.IsEncodable where
  version := by
    change x.version.number < 256
    have hnumber : x.version.number ≤ 1 := by cases x.version <;> simp [LdsVersion.number]
    omega
  numbers := by
    intro entry hentry
    have hgroup : entry.1 ≤ 16 := (x.groups entry hentry).2
    omega
  parameters := x.hash_tag
  versionInfo := by
    intro info hinfo
    change x.version.info = some info at hinfo
    cases hversion : x.version with
    | v0 => simp [hversion, LdsVersion.info] at hinfo
    | v1 lds unicode =>
        rw [hversion] at hinfo
        obtain rfl := Option.some.inj hinfo
        exact ⟨rfl, rfl⟩
  length := h

/-- The table that is read is the one that was written. -/
theorem decode_content (h : x.table.element.content.length ≤ maxLength) :
    SecurityTable.decode x.content = .ok x.object.table := by
  have htext : Oid.text x.hash.arcs.oid = x.hash.oid :=
    x.hash.arcs.text_oid.trans x.hash.joinDots_arcs
  have hversion : x.table.ldsVersion = .ok x.version := by
    refine EncodedTable.ldsVersion_eq_ok_iff.2 ?_
    change x.version.number = 0 ∧ x.version.info = none ∧ x.version = .v0 ∨
      ∃ lds unicode, x.version.number = 1 ∧ x.version.info = some (lds, unicode) ∧
        x.version = .v1 (Text.ofUtf8Lossy lds.content) (Text.ofUtf8Lossy unicode.content)
    cases x.version with
    | v0 => exact .inl ⟨rfl, rfl, rfl⟩
    | v1 lds unicode =>
        refine .inr ⟨_, _, rfl, rfl, ?_⟩
        rw [Text.ofUtf8Lossy_ofString, Text.ofUtf8Lossy_ofString]
  rw [content, EncodedTable.decode_encode (isEncodable_table h)]
  refine (if_pos x.hash.arcs.isPermitted_oid).trans (EncodedTable.check_eq_ok_iff.2 ?_)
  exact ⟨htext, EncodedTable.enter_nil_eq_ok_iff.2 ⟨x.groups, x.distinct, rfl⟩, hversion⟩

theorem isEncodable_signerInfo (x : Composition) : x.signerInfo.IsEncodable where
  version := x.signerVersion_le
  signer := x.signer.isEncodable_identifier
  digestAlgorithm := ⟨x.digestAlgorithm.arcs.isPermitted_oid, x.digest_tag⟩
  signatureAlgorithm := ⟨x.signatureAlgorithm.isPermitted_oid, x.signature_tag⟩
  unsignedAttributes := rfl

theorem isEncodable_data (x : Composition) : x.data.IsEncodable where
  version := x.dataVersion_le
  digestAlgorithms := x.announced
  ascends := x.ascends
  contentType := by
    change Oid.isPermitted SecurityObject.securityTableOid = true
    decide
  content := ⟨_, rfl, rfl⟩
  certificates := rfl
  crls := rfl

theorem isPermitted_signedDataOid : Oid.isPermitted SecurityObject.signedDataOid = true := by decide

section Readable

variable (h : x.element.content.length ≤ maxLength)
include h

theorem isReadable_data : x.data.element.IsReadable :=
  ContentInfo.isReadable_content (c := ⟨SecurityObject.signedDataOid, x.data.element⟩) ⟨rfl, h⟩ rfl

theorem isReadable_dataFields : ∀ e ∈ x.data.fields, e.IsReadable := by
  have hdata := isReadable_data h
  rw [SignedData.element_eq rfl rfl] at hdata
  exact SignedData.isReadable_fields hdata

theorem isReadable_signerInfo : x.signerInfo.element.IsReadable := by
  have hset := isReadable_dataFields h (construct Tag.set [x.signerInfo.element])
    (by simp [SignedData.fields, data])
  exact hset.of_mem (by simp) rfl

theorem length_table : x.table.element.content.length ≤ maxLength := by
  have hcontent := isReadable_dataFields h x.data.content.element (by simp [SignedData.fields])
  have hoctets : (⟨Tag.octetString, x.content⟩ : Element).IsReadable :=
    ContentInfo.isReadable_content
      (c := ⟨SecurityObject.securityTableOid, ⟨Tag.octetString, x.content⟩⟩) hcontent rfl
  exact Nat.le_trans Element.length_content_le_encode hoctets.2

/-- Signed attributes are found as they were written. -/
theorem taggedField?_signerInfo :
    SignerInfo.taggedField? x.signerInfo.element =
      x.attributes.map fun s =>
        construct (Tag.constructedContext 0) (s.written.map Attribute.element) := by
  have hsigner := isReadable_signerInfo h
  rw [SignerInfo.element_eq rfl] at hsigner ⊢
  have helements : elements? (construct Tag.sequence x.signerInfo.fields).content =
      some x.signerInfo.fields := elements?_encodeAll (SignerInfo.isReadable_fields hsigner)
  -- What is searched for is the signed attributes alone, whose tag no other field has.
  have hskip {e : Element} (rest : List Element) (hne : e.tag ≠ Tag.constructedContext 0) :
      (e :: rest).find? (·.tag == Tag.constructedContext 0) =
        rest.find? (·.tag == Tag.constructedContext 0) :=
    List.find?_cons_of_neg (by simpa using hne)
  have hversion : (octetElement x.signerInfo.version).tag ≠ Tag.constructedContext 0 := by
    change Tag.integer ≠ Tag.constructedContext 0
    decide
  have hname : x.signerInfo.signer.element.tag ≠ Tag.constructedContext 0 := by
    change x.signer.identifier.element.tag ≠ Tag.constructedContext 0
    cases x.signer with
    | issuerAndSerial issuer serial =>
        change Tag.sequence ≠ Tag.constructedContext 0
        decide
    | subjectKeyId id =>
        change Tag.context 0 ≠ Tag.constructedContext 0
        decide
  have halgorithm (a : Algorithm) : a.element.tag ≠ Tag.constructedContext 0 := by
    change Tag.sequence ≠ Tag.constructedContext 0
    decide
  rw [SignerInfo.taggedField?, helements, Option.bind_some, SignerInfo.fields, hskip _ hversion,
    hskip _ hname, hskip _ (halgorithm _)]
  change (SignerInfo.contextAttributes 0 (x.attributes.map (·.written)) ++ _).find? _ = _
  cases x.attributes with
  | some s => rfl
  | none =>
      refine (hskip _ (halgorithm _)).trans (hskip [] ?_)
      change Tag.octetString ≠ Tag.constructedContext 0
      decide

theorem rawSignedAttributes_data :
    SecurityObject.rawSignedAttributes x.data.element =
      .ok (x.attributes.map fun s => (Attribute.setElement s.written).encode) := by
  have hdata : SecurityObject.readAll x.data.element.content = .ok x.data.fields := by
    refine SecurityObject.readAll_eq_ok_iff.2 ⟨(isReadable_data h).2, ?_⟩
    rw [SignedData.element_eq rfl rfl]
    exact elements?_encodeAll (isReadable_dataFields h)
  have hset := isReadable_dataFields h (construct Tag.set [x.signerInfo.element])
    (by simp [SignedData.fields, data])
  have hsigners : SecurityObject.readAll (construct Tag.set [x.signerInfo.element]).content =
      .ok [x.signerInfo.element] := by
    refine SecurityObject.readAll_eq_ok_iff.2 ⟨hset.2, ?_⟩
    exact elements?_encodeAll (by simpa using isReadable_signerInfo h)
  have hfields : SecurityObject.readAll x.signerInfo.element.content = .ok x.signerInfo.fields := by
    have hsigner := isReadable_signerInfo h
    rw [SignerInfo.element_eq rfl] at hsigner ⊢
    refine SecurityObject.readAll_eq_ok_iff.2 ⟨hsigner.2, ?_⟩
    exact elements?_encodeAll (SignerInfo.isReadable_fields hsigner)
  have hfound : x.signerInfo.fields.find? (·.tag == Tag.constructedContext 0) =
      x.attributes.map fun s =>
        construct (Tag.constructedContext 0) (s.written.map Attribute.element) := by
    rw [← taggedField?_signerInfo h, SignerInfo.taggedField?,
      (SecurityObject.readAll_eq_ok_iff.1 hfields).2, Option.bind_some]
  refine SecurityObject.rawSignedAttributes_eq_ok_iff.2
    ⟨_, _, _, _, _, hdata, rfl, hsigners, rfl, hfields, ?_⟩
  rw [hfound, Option.map_map]
  rfl

/-- The signed data that is read has the signed attributes in order. -/
theorem exists_signedData :
    ∃ signed, SecurityObject.signedData x.octets = .ok (x.data.element,
        { x.data with signers := [{ x.signerInfo with signedAttributes := signed }] }) ∧
      signed.mapM SignedAttributes.ofAttributes = .ok (x.attributes.map (·.signed)) := by
  have hsigner := isReadable_signerInfo h
  obtain ⟨signed, hread, hsigned⟩ : ∃ signed : Option (List Attribute),
      (x.attributes.map (·.written)).map (fun as => Attribute.setOfContext? 0
        (construct (Tag.constructedContext 0) (as.map Attribute.element))) = signed.map some ∧
      signed.mapM SignedAttributes.ofAttributes = .ok (x.attributes.map (·.signed)) := by
    cases hattributes : x.attributes with
    | none => exact ⟨none, rfl, rfl⟩
    | some s =>
        have hset : (construct (Tag.constructedContext 0)
            (s.written.map Attribute.element)).IsReadable := by
          rw [SignerInfo.element_eq rfl] at hsigner
          refine SignerInfo.isReadable_fields hsigner _ ?_
          simp [SignerInfo.fields, signerInfo, SignerInfo.contextAttributes, hattributes]
        obtain ⟨sorted, hsorted, hmeaning⟩ := s.exists_setOfContext? hset
        refine ⟨some sorted, ?_, ?_⟩
        · rw [Option.map_some, Option.map_some, hsorted, Option.map_some]
        · change some <$> SignedAttributes.ofAttributes sorted = _
          rw [hmeaning]
          rfl
  have hinfo : SignerInfo.ofElement? x.signerInfo.element =
      some { x.signerInfo with signedAttributes := signed } :=
    x.isEncodable_signerInfo.ofElement?_element hsigner hread
  have hmembers : [x.signerInfo.element].mapM SignerInfo.ofElement? =
      some [{ x.signerInfo with signedAttributes := signed }] := by
    simp [hinfo]
  have hdata : SignedData.ofElement? x.data.element =
      some { x.data with signers := [{ x.signerInfo with signedAttributes := signed }] } := by
    refine x.isEncodable_data.ofElement?_element (isReadable_data h) ?_
    exact setOf?_construct (by simpa [data] using hsigner) hmembers
      (sortMembers_of_ascends (List.pairwise_singleton ..))
  have hcontent : (decode? x.octets).bind ContentInfo.ofElement? =
      some ⟨SecurityObject.signedDataOid, x.data.element⟩ := by
    rw [octets, decode?_encode ⟨rfl, h⟩, Option.bind_some]
    exact ContentInfo.ofElement?_element isPermitted_signedDataOid rfl ⟨rfl, h⟩
  exact ⟨signed, SecurityObject.signedData_eq_ok rfl hcontent hdata, hsigned⟩

end Readable

/-- What was put together is read back. -/
theorem decode_octets (h : x.element.content.length ≤ maxLength) :
    SecurityObject.decode x.octets = .ok x.object := by
  obtain ⟨signed, hdata, hsigned⟩ := exists_signedData h
  have hidentifier : x.signer.identifier.element.IsReadable := by
    have hsigner := isReadable_signerInfo h
    rw [SignerInfo.element_eq rfl] at hsigner
    exact SignerInfo.isReadable_fields hsigner _ (by simp [SignerInfo.fields, signerInfo])
  have htext : Oid.text x.digestAlgorithm.arcs.oid = x.digestAlgorithm.oid :=
    x.digestAlgorithm.arcs.text_oid.trans x.digestAlgorithm.joinDots_arcs
  have htaken : x.object.TakenFrom { x.signerInfo with signedAttributes := signed } :=
    { signerId := Signer.ofIdentifier_identifier hidentifier
      digestAlgorithm := DigestAlgorithm.ofOid_eq_ok_iff.2 htext
      signatureAlgorithm := x.signatureAlgorithm.text_oid.symm
      signedAttributes := hsigned
      signature := rfl }
  refine SecurityObject.decode_eq_ok hdata rfl htaken rfl rfl (decode_content (length_table h))
    (rawSignedAttributes_data h) ?_
  cases hattributes : x.attributes with
  | none => simp [object, hattributes, SecurityObject.signedBytesOf]
  | some s => simp [object, hattributes, SecurityObject.signedBytesOf]

end Composition

end Mrtd.Sod

namespace Mrtd.Specimen

open Der Cms Sod SecurityObject

def signerCountry : NamePart := ⟨⟨[0x55, 0x04, 0x06]⟩, false, "DE", by decide⟩

def signerCommonName : NamePart := ⟨⟨[0x55, 0x04, 0x03]⟩, true, "Signer, 1", by decide⟩

def tableArcs : Oid.Arcs := .ofNumbers 2 23 [136, 1, 1, 1] (by decide)

def ecdsaArcs : Oid.Arcs := .ofNumbers 1 2 [840, 10045, 4, 3, 2] (by decide)

/-- An attribute with two values. -/
def signingTime : Attribute :=
  ⟨⟨[0x2A, 0x86, 0x48, 0x86, 0xF7, 0x0D, 0x01, 0x09, 0x05]⟩, [⟨0x17, [0x5A]⟩, ⟨0x05, []⟩]⟩

/-- The content type is written first and the message digest last. -/
def attributeSet : AttributeSet where
  digest := ⟨Tag.octetString, [5, 6, 7]⟩
  contentType := some tableArcs
  others := [signingTime]
  written := [⟨SignedAttributes.contentTypeOid, [Oid.element securityTableOid]⟩, signingTime,
    ⟨SignedAttributes.messageDigestOid, [⟨Tag.octetString, [5, 6, 7]⟩]⟩]
  perm := by decide
  digest_tag := by decide
  isEncodable := by
    intro a ha
    obtain rfl := List.mem_singleton.1 ha
    exact ⟨by decide, by decide, by decide⟩
  types := by decide
  distinct := List.pairwise_singleton ..

def composition : Composition where
  hash := .sha256
  hashParameters := some ⟨0x05, []⟩
  digests := [(14, [1, 2]), (1, [])]
  version := .v1 "0107" "040000"
  dataVersion := 3
  digestAlgorithms := []
  signerVersion := 1
  signer := .issuerAndSerial [signerCountry, signerCommonName] ⟨0x9A, [0x01], by decide, by decide⟩
  digestAlgorithm := .sha1
  digestParameters := none
  signatureAlgorithm := ecdsaArcs
  signatureParameters := none
  attributes := some attributeSet
  signature := [8, 9]
  groups := by simp [EncodedTable.IsGroup, maxDataGroup]
  distinct := by decide
  hash_tag := by decide
  dataVersion_le := by decide
  announced := List.forall_mem_nil _
  ascends := List.Pairwise.nil
  signerVersion_le := by decide
  digest_tag := by decide
  signature_tag := by decide

theorem decode_composition :
    composition.element.content.length ≤ maxLength ∧
      decode composition.octets = .ok composition.object := by
  have hlength : composition.element.content.length ≤ maxLength := by decide +kernel
  exact ⟨hlength, Composition.decode_octets hlength⟩

/-- The same but for the signature algorithm, whose identifier 1.2.3 has two octets. -/
def shortSignature : SignedData :=
  { composition.data with
    signers := [{ composition.signerInfo with signatureAlgorithm := ⟨⟨[0x2A, 0x03]⟩, none⟩ }] }

/-- An identifier that is too short is not read as the algorithm of a signature. -/
theorem decode_shortSignature :
    Oid.text ⟨[0x2A, 0x03]⟩ = "1.2.3" ∧
      decode (ContentInfo.element ⟨signedDataOid, shortSignature.element⟩).encode =
        .error Fault.malformedSignedData.error ∧
      decode (ContentInfo.element ⟨signedDataOid, shortSignature.element⟩).encode ≠
        .ok { composition.object with signatureAlgorithm := "1.2.3" } := by
  have hdecode : decode (ContentInfo.element ⟨signedDataOid, shortSignature.element⟩).encode =
      .error Fault.malformedSignedData.error := by
    have hdata : signedData (ContentInfo.element ⟨signedDataOid, shortSignature.element⟩).encode =
        .error .malformedSignedData := by decide +kernel
    rw [decode, hdata]
    rfl
  refine ⟨by decide +kernel, hdecode, ?_⟩
  rw [hdecode]
  exact nofun

end Mrtd.Specimen
