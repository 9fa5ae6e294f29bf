import Mrtd.Proofs.Sod.RawFields
import Mrtd.Proofs.StoreOrder

/-!
The octets of an embedded signer. The certificates of signed data are read field by field and written
again before they are taken for certificates, so what is decoded as the signer is the canonical form
of a certificate in the input. It has the octets of a certificate in the input exactly if that
certificate is in the distinguished encoding to begin with.
-/

namespace Mrtd

open Der

namespace Cms.SignedData

variable {e : Element} {d : SignedData}

/-- The certificates in signed data, as the elements that they are. -/
def certificateElements (e : Element) : List Element :=
  (e.children.find? (·.tag == Tag.constructedContext 0)).elim [] fun field =>
    field.children.filter (·.tag == Tag.sequence)

/-- The field with the certificates is the first one that is tagged as such, and each certificate is
kept in its form. -/
theorem certificates_of_ofElement? {forms : List Element} (h : ofElement? e = some d)
    (hforms : d.certificates = some forms) :
    ∃ field members, e.children.find? (·.tag == Tag.constructedContext 0) = some field ∧
      field.children.mapM Canonical.certificateChoice? = some members ∧
      sortMembers Element.alternativeOrder members = some forms := by
  obtain ⟨_, es, helements, hfields⟩ := fieldsOf?_eq_some h
  obtain ⟨version, _, _, rfl, hversion, hrest⟩ := Fields.read_bind_eq_some_iff.1 hfields
  obtain ⟨digests, _, _, rfl, hdigests, hrest⟩ := Fields.read_bind_eq_some_iff.1 hrest
  obtain ⟨content, _, afterContent, rfl, hcontent, hrest⟩ := Fields.read_bind_eq_some_iff.1 hrest
  obtain ⟨certificates, _, hcertificates, hrest⟩ := Fields.bind_eq_some_iff.1 hrest
  obtain ⟨_, _, _, hrest⟩ := Fields.bind_eq_some_iff.1 hrest
  obtain ⟨_, _, _, hrest⟩ := Fields.bind_eq_some_iff.1 hrest
  obtain ⟨rfl, _⟩ := Fields.pure_eq_some_iff.1 hrest
  obtain rfl : certificates = some forms := hforms
  rcases Fields.readContext_zero_cases hcertificates with ⟨hnone, _⟩ | ⟨field, _, hsome, rfl, hset⟩
  · cases hnone
  · obtain rfl := Option.some.inj hsome
    obtain ⟨htag, children, members, hchildren, hmembers, hsort⟩ := setOf?_eq_some hset
    refine ⟨field, members, ?_, ?_, hsort⟩
    · rw [Element.children_of_elements? helements]
      have hversionTag : version.tag ≠ Tag.constructedContext 0 := by
        rw [SignerInfo.version?_tag hversion]
        decide
      have hdigestsTag : digests.tag ≠ Tag.constructedContext 0 := by
        rw [(setOf?_eq_some hdigests).1]
        decide
      have hcontentTag : content.tag ≠ Tag.constructedContext 0 := by
        rw [(fieldsOf?_eq_some hcontent).1]
        decide
      simp [hversionTag, hdigestsTag, hcontentTag, htag]
    · rwa [Element.children_of_elements? hchildren]

/-- A form that is a SEQUENCE is that of a certificate. -/
theorem certificate?_of_certificateChoice? {form : Element}
    (h : Canonical.certificateChoice? e = some form) (htag : form.tag = Tag.sequence) :
    e.tag = Tag.sequence ∧ Canonical.certificate? e = some form := by
  unfold Canonical.certificateChoice? at h
  split at h
  · rename_i hsequence
    exact ⟨hsequence, h⟩
  · have hother : form.tag = Tag.constructedContext 3 := Canonical.tag_of_explicit? h
    rw [htag] at hother
    exact absurd hother (by decide)

/-- A form that stands in the input itself is not that of another certificate: it is its own form, and
no two members have one. -/
theorem eq_of_form_mem {es members : List Element} {certificate form : Element}
    (hmembers : es.mapM Canonical.certificateChoice? = some members) (hnodup : members.Nodup)
    (hmem : certificate ∈ es) (hform : form ∈ es)
    (hchoice : Canonical.certificateChoice? certificate = some form)
    (htag : form.tag = Tag.sequence) : certificate = form := by
  obtain ⟨_, hcertificate⟩ := certificate?_of_certificateChoice? hchoice htag
  obtain ⟨own, _, hown⟩ := exists_of_mapM hmembers hform
  have hself : own = form := by
    rw [Canonical.certificateChoice?, if_pos htag] at hown
    exact Canonical.canonizes_certificate.fixed hown
      (Canonical.canonizes_certificate.has hcertificate)
  rw [hself] at hown
  exact eq_of_mapM_nodup hmembers hnodup hmem hform hchoice hown

/-- What is taken for a certificate is the form of a certificate in the input, and it has the octets
of one exactly if that certificate is in the distinguished encoding. -/
theorem properCertificates_cases {der : Bytes} (h : ofElement? e = some d)
    (hder : der ∈ d.properCertificates) :
    ∃ certificate ∈ certificateElements e, ∃ form,
      Canonical.certificate? certificate = some form ∧ der = form.encode ∧
        ((∃ same ∈ certificateElements e, der = same.encode) ↔
          Canonical.DistinguishedCertificate certificate) := by
  cases hforms : d.certificates with
  | none => simp [properCertificates, hforms] at hder
  | some forms =>
      obtain ⟨field, members, hfield, hmembers, hsort⟩ := certificates_of_ofElement? h hforms
      have hnodup : members.Nodup :=
        (sortMembers_perm hsort).nodup_iff.1 (nodup_of_ascends (ascends_sortMembers hsort))
      have helements : certificateElements e = field.children.filter (·.tag == Tag.sequence) := by
        rw [certificateElements, hfield, Option.elim_some]
      simp only [properCertificates, hforms, Option.getD_some, List.mem_map, List.mem_filter]
        at hder
      obtain ⟨form, ⟨hform, htag⟩, rfl⟩ := hder
      obtain ⟨certificate, hmem, hchoice⟩ :=
        mem_of_mapM hmembers ((sortMembers_perm hsort).subset hform)
      obtain ⟨hsequence, hcertificate⟩ :=
        certificate?_of_certificateChoice? hchoice (eq_of_beq htag)
      have hreadable : certificate.IsReadable := isReadable_of_mem_children hmem
      have hmemElements : certificate ∈ certificateElements e := by
        rw [helements]
        exact List.mem_filter.2 ⟨hmem, by simp [hsequence]⟩
      refine ⟨certificate, hmemElements, form, hcertificate, rfl, ?_, ?_⟩
      · rintro ⟨same, hsame, hencode⟩
        rw [helements] at hsame
        obtain ⟨hsameMem, hsameTag⟩ := List.mem_filter.1 hsame
        have hformReadable := (Canonical.canonizes_certificate.shrunk hcertificate).isReadable
          hreadable
        obtain rfl : form = same := Element.encode_injective hformReadable
          (isReadable_of_mem_children hsameMem) hencode
        obtain rfl := eq_of_form_mem hmembers hnodup hmem hsameMem hchoice (eq_of_beq htag)
        exact Canonical.canonizes_certificate.has hcertificate
      · intro hdistinguished
        have hself := Canonical.canonizes_certificate.fixed hcertificate hdistinguished
        exact ⟨certificate, hmemElements, by rw [hself]⟩

end Cms.SignedData

namespace Sod.SecurityObject

variable {octets : Bytes} {so : SecurityObject} {c : Certificate} {element : Element}
  {d : Cms.SignedData}

/-- The certificates in an encoded security object, as the elements that they are. -/
def certificateElements (octets : Bytes) : List Element :=
  (signedData octets).toOption.elim [] fun read => Cms.SignedData.certificateElements read.1

theorem unwrap_isInfix {inner : Bytes} (h : unwrap octets = .ok inner) : inner <:+: octets := by
  rcases unwrap_eq_ok_iff.1 h with ⟨rfl, _⟩ | ⟨rfl, _⟩
  · exact content_infix_encode (e := ⟨wrapperTag, inner⟩)
  · exact List.infix_rfl

theorem signedData_isInfix (h : signedData octets = .ok (element, d)) :
    element.encode <:+: octets := by
  have hcontent : element.encode <:+:
      (construct (Tag.constructedContext 0) [element]).encode := encode_infix_construct (by simp)
  have hinfo : (construct (Tag.constructedContext 0) [element]).encode <:+:
      (Cms.ContentInfo.element ⟨signedDataOid, element⟩).encode := encode_infix_construct (by simp)
  exact (hcontent.trans hinfo).trans (unwrap_isInfix (unwrap_of_signedData h))

/-- The certificates of a security object stand in its encoding as they are. -/
theorem certificateElements_isInfix {e : Element} (he : e ∈ certificateElements octets) :
    e.encode <:+: octets := by
  unfold certificateElements at he
  cases hdata : signedData octets with
  | error fault => simp [hdata, Except.toOption] at he
  | ok read =>
      obtain ⟨element, d⟩ := read
      simp only [hdata, Except.toOption, Option.elim_some, Cms.SignedData.certificateElements] at he
      cases hfield : element.children.find? (·.tag == Tag.constructedContext 0) with
      | none => simp [hfield] at he
      | some field =>
          rw [hfield, Option.elim_some] at he
          have hcertificate := encode_infix_of_mem_children (List.mem_filter.1 he).1
          have hfieldInfix := encode_infix_of_mem_children (List.mem_of_find?_eq_some hfield)
          exact hcertificate.trans (hfieldInfix.trans (signedData_isInfix hdata))

/-- What is decoded as the embedded signer is the canonical form of a certificate in the input. It
has the octets of a certificate in the input exactly if that certificate is in the distinguished
encoding. -/
theorem decode_embedded_iff (h : decode octets = .ok so) (hembedded : so.embeddedSigner = some c) :
    ∃ e ∈ certificateElements octets, ∃ form, e.encode <:+: octets ∧
      Canonical.certificate? e = some form ∧ c.der = form.encode ∧
      c.fingerprint = fingerprintOf form.encode ∧
      ((∃ same ∈ certificateElements octets, c.der = same.encode) ↔
        Canonical.DistinguishedCertificate e) := by
  obtain ⟨element, d, hdata, _, der, hder, hread⟩ := decode_embeddedSigner h hembedded
  obtain ⟨_, rfl, hfingerprint, _⟩ := Certificate.ofDer_record hread
  have helements : certificateElements octets = Cms.SignedData.certificateElements element := by
    simp [certificateElements, hdata, Except.toOption]
  obtain ⟨e, he, form, hform, hencode, hiff⟩ :=
    Cms.SignedData.properCertificates_cases (signedData_read hdata) hder
  rw [← helements] at he hiff
  exact ⟨e, he, form, certificateElements_isInfix he, hform, hencode, hencode ▸ hfingerprint, hiff⟩

end Sod.SecurityObject

namespace Specimen

open Cms Sod SecurityObject

/-- The Key Usage of a signer, of which it is said that it is not critical. -/
def statedUsage : Element :=
  construct Tag.sequence [⟨Tag.objectIdentifier, [0x55, 0x1D, 0x0F]⟩, Canonical.notCritical,
    ⟨Tag.octetString, [0x03, 0x02, 0x07, 0x80]⟩]

/-- The signer with this extension. -/
def statedSigner : Element :=
  construct Tag.sequence [
    construct Tag.sequence [construct (Tag.constructedContext 0) [octetElement 2],
      ⟨Tag.integer, [0x51]⟩, ed25519.element, rootName.element,
      construct Tag.sequence [newYear 0x30, newYear 0x31], (commonName [0x44, 0x53]).element,
      construct Tag.sequence [ed25519.element, ⟨Tag.bitString, [0, 7]⟩],
      construct (Tag.constructedContext 3) [construct Tag.sequence [statedUsage]]],
    ed25519.element, ⟨Tag.bitString, [0, 7]⟩]

def statingOctets : Bytes :=
  (ContentInfo.element
    ⟨signedDataOid, { embeddingData with certificates := some [statedSigner] }.element⟩).encode

theorem statingOctets_certificates : certificateElements statingOctets = [statedSigner] := by
  decide +kernel

theorem statingOctets_embedded_iff :
    ∃ so c, decode statingOctets = .ok so ∧ so.embeddedSigner = some c ∧
      ∃ e ∈ certificateElements statingOctets, ∃ form, e.encode <:+: statingOctets ∧
        Canonical.certificate? e = some form ∧ c.der = form.encode ∧
        c.fingerprint = fingerprintOf form.encode ∧
        ((∃ same ∈ certificateElements statingOctets, c.der = same.encode) ↔
          Canonical.DistinguishedCertificate e) := by
  have hembeds : (decode statingOctets).toOption.any (·.embeddedSigner.isSome) = true := by
    decide +kernel
  obtain ⟨so, hso, hsome⟩ := (Option.any_eq_true ..).1 hembeds
  obtain ⟨c, hc⟩ := Option.isSome_iff_exists.1 hsome
  have h := toOption_eq_some_iff.1 hso
  exact ⟨so, c, h, hc, decode_embedded_iff h hc⟩

/-- The one certificate says of its Key Usage that it is not critical; the signer that is decoded
does not. -/
theorem statingOctets_reencoded :
    ∃ so c, decode statingOctets = .ok so ∧ so.embeddedSigner = some c ∧
      certificateElements statingOctets = [statedSigner] ∧ c.der ≠ statedSigner.encode ∧
      c.fingerprint ≠ fingerprintOf statedSigner.encode := by
  have hdiffers : (decode statingOctets).toOption.any (fun so => so.embeddedSigner.any fun c =>
      decide (c.der ≠ statedSigner.encode ∧
        c.fingerprint ≠ fingerprintOf statedSigner.encode)) = true := by
    decide +kernel
  obtain ⟨so, hso, hsigner⟩ := (Option.any_eq_true ..).1 hdiffers
  obtain ⟨c, hc, hother⟩ := (Option.any_eq_true ..).1 hsigner
  obtain ⟨hder, hfingerprint⟩ := of_decide_eq_true hother
  exact ⟨so, c, toOption_eq_some_iff.1 hso, hc, statingOctets_certificates, hder, hfingerprint⟩

end Specimen

end Mrtd
