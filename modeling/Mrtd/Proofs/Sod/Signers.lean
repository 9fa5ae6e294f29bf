import Mrtd.Proofs.Der.SetOrder
import Mrtd.Sod.Verification

/-!
Which signer a decoded security object speaks of. Its fields are those of the signer information
that is first in the order of the distinguished encoding; the octets that its signature covers are
looked for in the signer information that comes first in the input. The two are one signer exactly
if the attributes that the former signs are, octet for octet, what is found in the latter.
-/

namespace Mrtd

open Der

namespace Cms

namespace SignerInfo

variable {e : Element} {info : SignerInfo}

/-- The field of signer information that holds the signed attributes, if there are any: the fourth. -/
def signedField? (e : Element) : Option Element :=
  ((elements? e.content).bind (·[3]?)).filter (·.tag == Tag.constructedContext 0)

/-- The first field of signer information that is tagged as the signed attributes are. -/
def taggedField? (e : Element) : Option Element :=
  (elements? e.content).bind (·.find? (·.tag == Tag.constructedContext 0))

theorem signedField?_valid {field : Element} (h : signedField? e = some field) :
    field.content.length ≤ maxLength := by
  obtain ⟨hfield, _⟩ := Option.filter_eq_some_iff.1 h
  obtain ⟨es, helements, hfield⟩ := Option.bind_eq_some_iff.1 hfield
  exact (isReadable_of_elements? helements field (List.mem_of_getElem? hfield)).2

theorem taggedField?_valid {field : Element} (h : taggedField? e = some field) :
    field.content.length ≤ maxLength := by
  obtain ⟨es, helements, hfield⟩ := Option.bind_eq_some_iff.1 h
  exact (isReadable_of_elements? helements field (List.mem_of_find?_eq_some hfield)).2

theorem version?_tag {version : Nat} (h : version? e = some version) : e.tag = Tag.integer := by
  obtain ⟨hoctet, _⟩ := Option.filter_eq_some_iff.1 h
  unfold octetOfElement? at hoctet
  split at hoctet
  · assumption
  · cases hoctet

/-- Three fields come before the signed attributes, if there are any. -/
theorem ofElement?_cases (h : ofElement? e = some info) :
    ∃ front rest, elements? e.content = some (front ++ rest) ∧ front.length = 3 ∧
      ((info.signedAttributes = none ∧
          ∀ field ∈ rest.head?, field.tag ≠ Tag.constructedContext 0) ∨
        ∃ field attributes, info.signedAttributes = some attributes ∧ rest.head? = some field ∧
          Attribute.setOfContext? 0 field = some attributes) := by
  obtain ⟨_, es, helements, hfields⟩ := fieldsOf?_eq_some h
  obtain ⟨version, _, _, rfl, _, hsigner⟩ := Fields.read_bind_eq_some_iff.1 hfields
  obtain ⟨signer, _, _, rfl, _, hdigest⟩ := Fields.read_bind_eq_some_iff.1 hsigner
  obtain ⟨digest, _, rest, rfl, _, hrest⟩ := Fields.read_bind_eq_some_iff.1 hdigest
  obtain ⟨attributes, _, hattributes, hrest⟩ := Fields.bind_eq_some_iff.1 hrest
  obtain ⟨_, _, _, hrest⟩ := Fields.bind_eq_some_iff.1 hrest
  obtain ⟨_, _, _, hrest⟩ := Fields.bind_eq_some_iff.1 hrest
  obtain ⟨_, _, _, hrest⟩ := Fields.bind_eq_some_iff.1 hrest
  obtain ⟨rfl, _⟩ := Fields.pure_eq_some_iff.1 hrest
  refine ⟨[version, signer, digest], rest, helements, rfl, ?_⟩
  rcases Fields.readContext_zero_cases hattributes with ⟨rfl, _, hother⟩ | ⟨field, as, rfl, rfl, has⟩
  · exact .inl ⟨rfl, hother⟩
  · exact .inr ⟨field, as, rfl, rfl, has⟩

/-- Signer information signs attributes exactly if it has the field for them, which holds them. -/
theorem signedField?_cases (h : ofElement? e = some info) :
    (info.signedAttributes = none ∧ signedField? e = none) ∨
      ∃ field attributes, info.signedAttributes = some attributes ∧ signedField? e = some field ∧
        Attribute.setOfContext? 0 field = some attributes := by
  obtain ⟨front, rest, helements, hlength, hrest⟩ := ofElement?_cases h
  have hfourth : signedField? e = rest.head?.filter (·.tag == Tag.constructedContext 0) := by
    simp [signedField?, helements, List.getElem?_append_right, hlength, List.head?_eq_getElem?]
  rw [hfourth]
  rcases hrest with ⟨hnone, hother⟩ | ⟨field, attributes, hsome, hhead, hread⟩
  · refine .inl ⟨hnone, Option.filter_eq_none_iff.2 fun field hfield => ?_⟩
    simpa using hother field hfield
  · have htag : field.tag = Tag.constructedContext 0 := (mem_of_setOf? hread).1
    exact .inr ⟨field, attributes, hsome, by simp [hhead, htag], hread⟩

end SignerInfo

namespace SignedData

variable {e : Element} {d : SignedData}

/-- The elements with signer information, in the order of the input. -/
def signerElements? (e : Element) : Option (List Element) := do
  elements? (← (← elements? e.content).getLast?).content

/-- Signer information is read from the elements that are found without reading the rest. -/
theorem signerElements?_of_ofElement? (h : ofElement? e = some d) :
    ∃ signers, signerElements? e = some signers ∧
      ∀ info ∈ d.signers, ∃ signer ∈ signers, SignerInfo.ofElement? signer = some info := by
  obtain ⟨_, es, helements, hfields⟩ := fieldsOf?_eq_some h
  obtain ⟨version, _, _, rfl, _, hdigests⟩ := Fields.read_bind_eq_some_iff.1 hfields
  obtain ⟨digests, _, _, rfl, _, hcontent⟩ := Fields.read_bind_eq_some_iff.1 hdigests
  obtain ⟨content, _, afterContent, rfl, _, hrest⟩ := Fields.read_bind_eq_some_iff.1 hcontent
  obtain ⟨_, afterCertificates, hcertificates, hrest⟩ := Fields.bind_eq_some_iff.1 hrest
  obtain ⟨_, afterCrls, hcrls, hrest⟩ := Fields.bind_eq_some_iff.1 hrest
  obtain ⟨last, _, _, rfl, hset, hrest⟩ := Fields.read_bind_eq_some_iff.1 hrest
  obtain ⟨rfl, rfl⟩ := Fields.pure_eq_some_iff.1 hrest
  -- The set of signers is the last field: whatever is optional before it leaves it alone.
  obtain ⟨_, members, hmembers, hread⟩ := mem_of_setOf? hset
  obtain ⟨front, hfront⟩ :=
    (Fields.readContext_suffix hcrls).trans (Fields.readContext_suffix hcertificates)
  have hlast : (version :: digests :: content :: afterContent).getLast? = some last := by
    rw [← hfront]
    exact List.getLast?_concat (l := version :: digests :: content :: front)
  refine ⟨members, ?_, hread⟩
  rw [signerElements?, helements, Option.bind_eq_bind, Option.bind_some, hlast]
  exact hmembers

/-- What is taken for the signed attributes: the content of the first field tagged as such in the
first of some signer information. -/
def foundAttributes? (signers : List Element) : Option Bytes :=
  (signers.head?.bind SignerInfo.taggedField?).map (·.content)

theorem foundAttributes?_valid {signers : List Element} :
    ∀ content ∈ foundAttributes? signers, content.length ≤ maxLength := by
  intro content hcontent
  obtain ⟨field, hfield, rfl⟩ := Option.map_eq_some_iff.1 hcontent
  obtain ⟨first, _, hfirst⟩ := Option.bind_eq_some_iff.1 hfield
  exact SignerInfo.taggedField?_valid hfirst

end SignedData

end Cms

namespace Sod

open Cms

namespace SignedAttributes

/-- An attribute is a message digest of some octets. -/
def IsDigest (digest : Bytes) (a : Attribute) : Prop :=
  a.type = messageDigestOid ∧ ∃ value ∈ a.values, value.content = digest

/-- A message digest of some octets is among the attributes of a set with some content. -/
def HasDigest (content digest : Bytes) : Prop :=
  ∃ es, elements? content = some es ∧
    ∃ e ∈ es, ∃ a, Attribute.ofElement? e = some a ∧ IsDigest digest a

/-- The digest that is collected is the one to start with or one of the attributes. -/
theorem collect_digest {attributes : List Attribute} {start result : Option Bytes}
    {type resultType : Option String} {digest : Bytes}
    (h : collect start type attributes = .ok (result, resultType)) (hdigest : result = some digest) :
    start = some digest ∨ ∃ a ∈ attributes, IsDigest digest a := by
  induction attributes generalizing start type with
  | nil =>
      obtain ⟨rfl, _⟩ := Prod.mk.inj (Except.ok.inj h)
      exact .inl hdigest
  | cons first rest ih =>
      -- Whatever this attribute does to the digest and the type, the rest is collected next.
      have hlater {start : Option Bytes} {type : Option String}
          (h : collect start type rest = .ok (result, resultType)) :
          start = some digest ∨ ∃ a ∈ first :: rest, IsDigest digest a :=
        (ih h).imp_right fun ⟨a, ha, hvalue⟩ => ⟨a, List.mem_cons_of_mem _ ha, hvalue⟩
      rw [collect] at h
      split at h
      · exact hlater h
      · rename_i value others hvalues
        split at h
        · rename_i htype
          rcases hlater h with heq | hfound
          · have hvalue : value ∈ first.values := by simp [hvalues]
            exact .inr ⟨first, List.mem_cons_self, htype, value, hvalue, Option.some.inj heq⟩
          · exact .inr hfound
        · split at h
          · obtain ⟨_, _, h⟩ := bind_eq_ok_iff.1 h
            exact hlater h
          · exact hlater h

theorem exists_isDigest {attributes : List Attribute} {signed : SignedAttributes}
    (h : ofAttributes attributes = .ok signed) :
    ∃ a ∈ attributes, IsDigest signed.messageDigest a := by
  obtain ⟨⟨digest, type⟩, hcollect, h⟩ := bind_eq_ok_iff.1 h
  cases digest with
  | none => cases h
  | some digest =>
      obtain rfl := Except.ok.inj h
      rcases collect_digest hcollect rfl with hnone | hfound
      · cases hnone
      · exact hfound

/-- The field that signed attributes are read from has their message digest. -/
theorem hasDigest_of_field {field : Element} {attributes : List Attribute}
    {signed : SignedAttributes} (hfield : Attribute.setOfContext? 0 field = some attributes)
    (h : ofAttributes attributes = .ok signed) : HasDigest field.content signed.messageDigest := by
  obtain ⟨_, es, helements, hread⟩ := mem_of_setOf? hfield
  obtain ⟨a, ha, hdigest⟩ := exists_isDigest h
  obtain ⟨e, he, hattribute⟩ := hread a ha
  exact ⟨es, helements, e, he, a, hattribute, hdigest⟩

end SignedAttributes

namespace SecurityObject

variable {octets : Bytes} {so : SecurityObject} {info : SignerInfo}

/-- The fields of a security object that tell of its signer are those of some signer information. -/
structure TakenFrom (so : SecurityObject) (info : SignerInfo) : Prop where
  signerId : SignerId.ofIdentifier info.signer = .ok so.signerId
  digestAlgorithm : DigestAlgorithm.ofOid (Oid.text info.digestAlgorithm.oid) = .ok so.digestAlgorithm
  signatureAlgorithm : so.signatureAlgorithm = Oid.text info.signatureAlgorithm.oid
  signedAttributes :
    info.signedAttributes.mapM SignedAttributes.ofAttributes = .ok so.signedAttributes
  signature : so.signature = info.signature

/-- The signed attributes are looked for in the first signer information of the last field. -/
theorem rawSignedAttributes_eq_ok_iff {e : Element} {raw : Option Bytes} :
    rawSignedAttributes e = .ok raw ↔
      ∃ data set signers first fields, readAll e.content = .ok data ∧ data.getLast? = some set ∧
        readAll set.content = .ok signers ∧ signers.head? = some first ∧
        readAll first.content = .ok fields ∧
        raw = (fields.find? (·.tag == Tag.constructedContext 0)).map fun field =>
          Element.encode ⟨Tag.set, field.content⟩ := by
  constructor
  · intro h
    obtain ⟨data, hdata, h⟩ := bind_eq_ok_iff.1 h
    split at h
    · rename_i set hset
      obtain ⟨signers, hsigners, h⟩ := bind_eq_ok_iff.1 h
      split at h
      · rename_i first hfirst
        obtain ⟨fields, hfields, h⟩ := bind_eq_ok_iff.1 h
        exact ⟨data, set, signers, first, fields, hdata, hset, hsigners, hfirst, hfields,
          (Except.ok.inj h).symm⟩
      · cases h
    · cases h
  · rintro ⟨data, set, signers, first, fields, hdata, hset, hsigners, hfirst, hfields, rfl⟩
    refine bind_eq_ok_iff.2 ⟨data, hdata, ?_⟩
    simp only [hset]
    refine bind_eq_ok_iff.2 ⟨signers, hsigners, ?_⟩
    simp only [hfirst]
    exact bind_eq_ok_iff.2 ⟨fields, hfields, rfl⟩

theorem raw_eq_foundAttributes? {e : Element} {signers : List Element} {raw : Option Bytes}
    (hsigners : SignedData.signerElements? e = some signers)
    (h : rawSignedAttributes e = .ok raw) :
    raw = (SignedData.foundAttributes? signers).map fun content =>
      Element.encode ⟨Tag.set, content⟩ := by
  obtain ⟨data, set, signers', first, fields, hdata, hset, hread, hfirst, hfields, rfl⟩ :=
    rawSignedAttributes_eq_ok_iff.1 h
  have hfound : SignedData.signerElements? e = some signers' := by
    rw [SignedData.signerElements?, (readAll_eq_ok_iff.1 hdata).2, Option.bind_eq_bind,
      Option.bind_some, hset]
    exact (readAll_eq_ok_iff.1 hread).2
  obtain rfl : signers = signers' := Option.some.inj (hsigners.symm.trans hfound)
  rw [SignedData.foundAttributes?, hfirst, Option.bind_some, SignerInfo.taggedField?,
    (readAll_eq_ok_iff.1 hfields).2, Option.bind_some, Option.map_map]
  rfl

theorem signedData_read {element : Element} {d : SignedData}
    (h : signedData octets = .ok (element, d)) : SignedData.ofElement? element = some d := by
  obtain ⟨unwrapped, _, h⟩ := bind_eq_ok_iff.1 h
  split at h
  · cases h
  · rename_i contentInfo _
    split at h
    · cases h
    · split at h
      · rename_i read hread
        obtain ⟨rfl, rfl⟩ := Prod.mk.inj (Except.ok.inj h)
        exact hread
      · cases h

theorem decode_cases (h : decode octets = .ok so) :
    ∃ element d info, signedData octets = .ok (element, d) ∧ d.signers.head? = some info ∧
      so.TakenFrom info ∧ embeddedSignerOf d so.signerId = .ok so.embeddedSigner ∧
      contentOf d = .ok so.content ∧ SecurityTable.decode so.content = .ok so.table ∧
      ∃ raw, rawSignedAttributes element = .ok raw ∧
        signedBytesOf raw so.signedAttributes so.content = .ok so.signedBytes := by
  obtain ⟨⟨element, d⟩, hdata, h⟩ := bind_eq_ok_iff.1 h
  obtain ⟨content, hcontent, h⟩ := bind_eq_ok_iff.1 h
  obtain ⟨table, htable, h⟩ := bind_eq_ok_iff.1 h
  split at h
  · rename_i info hinfo
    obtain ⟨digestAlgorithm, hdigest, h⟩ := bind_eq_ok_iff.1 h
    obtain ⟨signerId, hsignerId, h⟩ := bind_eq_ok_iff.1 h
    obtain ⟨embedded, hembedded, h⟩ := bind_eq_ok_iff.1 h
    obtain ⟨attributes, hattributes, h⟩ := bind_eq_ok_iff.1 h
    obtain ⟨raw, hraw, h⟩ := bind_eq_ok_iff.1 h
    obtain ⟨signedBytes, hsigned, h⟩ := bind_eq_ok_iff.1 h
    obtain rfl := Except.ok.inj h
    exact ⟨element, d, info, mapError_eq_ok_iff.1 hdata, hinfo,
      ⟨hsignerId, hdigest, rfl, hattributes, rfl⟩, hembedded, mapError_eq_ok_iff.1 hcontent, htable,
      raw, mapError_eq_ok_iff.1 hraw, hsigned⟩
  · cases h

/-- The embedded signer is one of the certificates that are embedded, read as a signer's. -/
theorem decode_embeddedSigner {c : Certificate} (h : decode octets = .ok so)
    (hembedded : so.embeddedSigner = some c) :
    ∃ element d, signedData octets = .ok (element, d) ∧ so.signerId.names c = true ∧
      ∃ der ∈ d.properCertificates, Certificate.ofDer .dsc der = .ok c := by
  obtain ⟨element, d, _, hdata, _, _, hsigner, _⟩ := decode_cases h
  rw [hembedded] at hsigner
  obtain ⟨certificates, hread, hfind⟩ := bind_eq_ok_iff.1 hsigner
  have hfind : certificates.find? so.signerId.names = some c := Except.ok.inj hfind
  exact ⟨element, d, hdata, List.find?_some hfind,
    exists_of_mem_mapM hread (List.mem_of_find?_eq_some hfind)⟩

/-- A table is a SEQUENCE, so its octets are not those of a SET. -/
theorem content_ne_encode_set {content octets : Bytes} {table : SecurityTable}
    (h : SecurityTable.decode content = .ok table) : content ≠ Element.encode ⟨Tag.set, octets⟩ := by
  rintro rfl
  unfold SecurityTable.decode at h
  split at h
  · rename_i encoded hencoded
    obtain ⟨e, hdecode, hfields⟩ := Option.bind_eq_some_iff.1 hencoded
    have htag : e.tag = Tag.sequence := (fieldsOf?_eq_some hfields).1
    have hencode := encode_of_decode? hdecode
    have hset : Tag.set = e.tag := (List.cons.inj hencode).1
    rw [htag] at hset
    exact absurd hset (by decide)
  · cases h

/-- The elements with signer information in an encoded security object, in their order there. -/
def signerElements? (octets : Bytes) : Option (List Element) := do
  SignedData.signerElements? (← (signedData octets).toOption).1

/-- The signature of a security object covers what the signer information in an element says: the
signed attributes as they stand there, the message digest among them, or without any the content. -/
def SignedAs (so : SecurityObject) (e : Element) : Prop :=
  match so.signedAttributes with
  | none => so.signedBytes = so.content
  | some signed => ∃ field, SignerInfo.signedField? e = some field ∧
      so.signedBytes = Element.encode ⟨Tag.set, field.content⟩ ∧
        SignedAttributes.HasDigest field.content signed.messageDigest

/-- One and the same signer information of an encoded security object accounts for all that its
decoded form tells of the signer. -/
def FromOneSigner (so : SecurityObject) (octets : Bytes) : Prop :=
  ∃ signers, signerElements? octets = some signers ∧
    ∃ e ∈ signers, ∃ info, SignerInfo.ofElement? e = some info ∧ so.TakenFrom info ∧ so.SignedAs e

theorem signedBytesOf_eq {raw : Option Bytes} {signed : Option SignedAttributes}
    {content signedBytes : Bytes} (h : signedBytesOf raw signed content = .ok signedBytes) :
    signedBytes = raw.getD content ∧ (raw = none → signed = none) := by
  cases raw with
  | some raw =>
      obtain rfl := Except.ok.inj h
      simp
  | none =>
      cases signed with
      | some _ => cases h
      | none =>
          obtain rfl := Except.ok.inj h
          simp

/-- The signature covers what a signer says exactly if what is taken for the signed attributes are
the octets of the field with the attributes that this signer signs. -/
theorem signedAs_iff {e : Element} {found : Option Bytes}
    (hfound : ∀ content ∈ found, content.length ≤ maxLength)
    (hinfo : SignerInfo.ofElement? e = some info) (htaken : so.TakenFrom info)
    (htable : SecurityTable.decode so.content = .ok so.table)
    (hsigned : signedBytesOf (found.map fun content => Element.encode ⟨Tag.set, content⟩)
      so.signedAttributes so.content = .ok so.signedBytes) :
    so.SignedAs e ↔ (SignerInfo.signedField? e).map (·.content) = found := by
  obtain ⟨hbytes, hnone⟩ := signedBytesOf_eq hsigned
  have hattributes := htaken.signedAttributes
  rcases SignerInfo.signedField?_cases hinfo with ⟨hunsigned, hfield⟩ | ⟨field, attributes, hsome,
    hfield, hread⟩
  · -- The signer signs no attributes: none may be found.
    rw [hunsigned] at hattributes
    have hattributes : none = so.signedAttributes := Except.ok.inj hattributes
    simp only [SignedAs, ← hattributes, hfield]
    cases found with
    | none => simpa using hbytes
    | some content =>
        have hne : so.content ≠ Element.encode ⟨Tag.set, content⟩ := content_ne_encode_set htable
        simpa [hbytes] using hne.symm
  · -- The signer signs attributes: what is found must have their octets.
    rw [hsome] at hattributes
    obtain ⟨signed, hof, hattributes⟩ := map_eq_ok_iff.1 hattributes
    cases found with
    | none => simp [← hattributes] at hnone
    | some content =>
        simp only [SignedAs, ← hattributes, hfield, Option.map_some, Option.some.injEq]
        constructor
        · rintro ⟨field', rfl, hencode, _⟩
          have htag : isTag Tag.set = true := by decide
          refine content_eq_of_encode_eq htag (SignerInfo.signedField?_valid hfield)
            (hfound content rfl) ?_
          rw [← hencode, hbytes]
          rfl
        · rintro rfl
          exact ⟨field, rfl, hbytes, SignedAttributes.hasDigest_of_field hread hof⟩

/-- The fields are those of the signer information that is first in ascending order, the signed
octets are looked for in the one that is first in the input. -/
theorem decode_signers (h : decode octets = .ok so) :
    ∃ d signers info, (signedData octets).toOption.map Prod.snd = some d ∧
      d.signers.head? = some info ∧ so.TakenFrom info ∧ signerElements? octets = some signers ∧
      (∀ info ∈ d.signers, ∃ e ∈ signers, SignerInfo.ofElement? e = some info) ∧
      SecurityTable.decode so.content = .ok so.table ∧
      signedBytesOf ((SignedData.foundAttributes? signers).map fun content =>
        Element.encode ⟨Tag.set, content⟩) so.signedAttributes so.content = .ok so.signedBytes := by
  obtain ⟨element, d, info, hdata, hinfo, htaken, _, _, htable, raw, hraw, hsigned⟩ :=
    decode_cases h
  obtain ⟨signers, hsigners, hread⟩ :=
    SignedData.signerElements?_of_ofElement? (signedData_read hdata)
  obtain rfl := raw_eq_foundAttributes? hsigners hraw
  have hin : signerElements? octets = some signers := by
    simpa [signerElements?, hdata, Except.toOption] using hsigners
  have hd : (signedData octets).toOption.map Prod.snd = some d := by
    simp [hdata, Except.toOption]
  exact ⟨d, signers, info, hd, hinfo, htaken, hin, hread, htable, hsigned⟩

/-- One signer accounts for all that is told of the signer exactly if some signer information with
the fields that were taken signs attributes with the octets found in the first signer information of
the input, or signs none where none are found. -/
theorem decode_fromOneSigner_iff (h : decode octets = .ok so) :
    ∃ d signers info, (signedData octets).toOption.map Prod.snd = some d ∧
      d.signers.head? = some info ∧ so.TakenFrom info ∧ signerElements? octets = some signers ∧
      so.signedBytes = (SignedData.foundAttributes? signers).elim so.content
        (fun content => Element.encode ⟨Tag.set, content⟩) ∧
      (so.FromOneSigner octets ↔
        ∃ e ∈ signers, ∃ info, SignerInfo.ofElement? e = some info ∧ so.TakenFrom info ∧
          (SignerInfo.signedField? e).map (·.content) = SignedData.foundAttributes? signers) := by
  obtain ⟨d, signers, info, hd, hinfo, htaken, hsigners, _, htable, hsigned⟩ := decode_signers h
  refine ⟨d, signers, info, hd, hinfo, htaken, hsigners, ?_, ?_⟩
  · rw [(signedBytesOf_eq hsigned).1]
    cases SignedData.foundAttributes? signers <;> rfl
  · simp only [FromOneSigner, hsigners, Option.some.injEq, exists_eq_left']
    refine exists_congr fun e => and_congr_right fun _ => exists_congr fun info => ?_
    exact and_congr_right fun hread => and_congr_right fun htaken =>
      signedAs_iff SignedData.foundAttributes?_valid hread htaken htable hsigned

end SecurityObject

end Sod

namespace Specimen

open Cms Sod SecurityObject

def sha1 : Algorithm := ⟨⟨[0x2B, 0x0E, 0x03, 0x02, 0x1A]⟩, none⟩

/-- Signer information that signs nothing but a message digest. -/
def signerInfo (id : SignerIdentifier) (digest : Bytes) : SignerInfo where
  version := 1
  signer := id
  digestAlgorithm := sha1
  signedAttributes := some [⟨SignedAttributes.messageDigestOid, [⟨Tag.octetString, digest⟩]⟩]
  signatureAlgorithm := ⟨SignatureVerifier.ecdsaWithSha256, none⟩
  signature := [7]
  unsignedAttributes := none

/-- The octets of a table. -/
def tableOctets (digests : List (Nat × Bytes)) : Bytes :=
  (EncodedTable.element ⟨0, sha1, digests, none⟩).encode

/-- A security object with a table and with signer information in the order given. -/
def encodedObject (digests : List (Nat × Bytes)) (signers : List SignerInfo) : Bytes :=
  let data : SignedData :=
    ⟨1, [], ⟨securityTableOid, some ⟨Tag.octetString, tableOctets digests⟩⟩, none, none, signers⟩
  (ContentInfo.element ⟨signedDataOid, data.element⟩).encode

/-- Signs the digest of something else. -/
def genuine : SignerInfo := signerInfo (.subjectKeyId [2]) (List.replicate 20 0xFF)

/-- Repeats the signature and claims the digest of the table without data groups. -/
def forged : SignerInfo :=
  signerInfo (.subjectKeyId [1]) (DigestAlgorithm.sha1.digest (tableOctets []))

/-- The signer information that is first in ascending order comes second. -/
def swapped : Bytes := encodedObject [] [genuine, forged]

/-- What is decoded: the fields are the forged ones, the signed octets the genuine ones. -/
def swappedObject : SecurityObject where
  embeddedSigner := none
  signerId := .subjectKeyId "01"
  digestAlgorithm := .sha1
  signatureAlgorithm := "1.2.840.10045.4.3.2"
  table := ⟨.sha1, [], .v0⟩
  signedAttributes := some ⟨DigestAlgorithm.sha1.digest (tableOctets []), none⟩
  content := tableOctets []
  signedBytes := (Attribute.setElement
    [⟨SignedAttributes.messageDigestOid, [⟨Tag.octetString, List.replicate 20 0xFF⟩]⟩]).encode
  signature := [7]

theorem decode_swapped : decode swapped = .ok swappedObject :=
  toOption_eq_some_iff.1 (by decide +kernel)

theorem signers_swapped : signerElements? swapped = some [genuine.element, forged.element] := by
  decide +kernel

theorem swapped_fromOneSigner_iff :
    decode swapped = .ok swappedObject ∧
      ∃ d signers info, (signedData swapped).toOption.map Prod.snd = some d ∧
        d.signers.head? = some info ∧ swappedObject.TakenFrom info ∧
        signerElements? swapped = some signers ∧
        swappedObject.signedBytes = (SignedData.foundAttributes? signers).elim swappedObject.content
          (fun content => Element.encode ⟨Tag.set, content⟩) ∧
        (swappedObject.FromOneSigner swapped ↔
          ∃ e ∈ signers, ∃ info, SignerInfo.ofElement? e = some info ∧
            swappedObject.TakenFrom info ∧
              (SignerInfo.signedField? e).map (·.content) = SignedData.foundAttributes? signers) :=
  ⟨decode_swapped, decode_fromOneSigner_iff decode_swapped⟩

/-- The digest of the content is the one claimed, but the signed octets do not have it. -/
theorem swapped_not_fromOneSigner :
    ∃ so, decode swapped = .ok so ∧ SodVerifier.digestErrors so = [] ∧
      ¬ so.FromOneSigner swapped := by
  refine ⟨swappedObject, decode_swapped, by decide +kernel, ?_⟩
  rintro ⟨signers, hsigners, e, he, info, hread, htaken, hsigned⟩
  obtain rfl := Option.some.inj (hsigners.symm.trans signers_swapped)
  have htwo : e = genuine.element ∨ e = forged.element := by simpa using he
  rcases htwo with rfl | rfl
  · -- The genuine signer has another key identifier.
    have hgenuine : SignerInfo.ofElement? genuine.element = some genuine := by decide +kernel
    obtain rfl := Option.some.inj (hread.symm.trans hgenuine)
    exact absurd (toOption_eq_some_iff.2 htaken.signerId) (by decide +kernel)
  · -- The forged attributes are not what the signature covers.
    obtain ⟨field, hfield, hbytes, _⟩ := hsigned
    have hforged : (SignerInfo.signedField? forged.element).map
        (fun field => Element.encode ⟨Tag.set, field.content⟩) ≠ some swappedObject.signedBytes := by
      decide +kernel
    exact hforged (by rw [hfield, hbytes]; rfl)

end Specimen

end Mrtd
