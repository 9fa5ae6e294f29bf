import Mrtd.Proofs.SerialNumber
import Mrtd.Proofs.Sod.EmbeddedSigner
import Mrtd.Proofs.Sod.Itemization

/-!
The signer that is named. Signer information names a certificate by its issuer and serial number or
by its key, in writing of its own. Every certificate of a security object is read and compared with
that name; the embedded signer is one that bears it, and there is none only if no certificate does. A
signer from a store bears the name as well, and is taken only where none is embedded.
-/

namespace Mrtd

open Der

namespace Certificate

variable {type : CertificateType} {der : Bytes} {c : Certificate}

/-- The serial number of a certificate that was read is in normal form. -/
theorem normalize_serial_of_ofDer (h : ofDer type der = .ok c) :
    SerialNumber.normalize c.serial = c.serial := by
  have hdecode : decode type der = .ok c := mapError_eq_ok_iff.1 h
  unfold decode at hdecode
  split at hdecode
  · simp only [ofEncoded] at hdecode
    split at hdecode
    · split at hdecode
      · split at hdecode
        · obtain rfl := Except.ok.inj hdecode
          exact SerialNumber.normalize_ofBytes _
        · split at hdecode
          · obtain rfl := Except.ok.inj hdecode
            exact SerialNumber.normalize_ofBytes _
          · cases hdecode
      · cases hdecode
    · cases hdecode
  · cases hdecode

end Certificate

namespace Der.Fields

variable {es rest : List Element} {number : Nat} {found : Option Element}

/-- The tag is a context tag with a number up to some bound. -/
def HasContextUpTo (number : Nat) (e : Element) : Prop :=
  0x80 ≤ e.tag.toNat ∧ e.tag.toNat < 0xC0 ∧ e.tag.toNat % 32 ≤ number

/-- Where no field with a context number is found, what comes next has no such number. -/
theorem head_of_contextField_none (h : contextField number es = some (none, rest)) :
    ∀ e ∈ rest.head?, ¬ HasContextUpTo number e := by
  induction es with
  | nil =>
      obtain ⟨_, rfl⟩ := Prod.mk.inj (Option.some.inj h)
      simp
  | cons e tail ih =>
      rw [contextField] at h
      split at h
      · split at h
        · cases h
        · exact ih h
      · rename_i hother
        obtain ⟨_, rfl⟩ := Prod.mk.inj (Option.some.inj h)
        intro e' he'
        obtain rfl := Option.some.inj he'
        exact hother

/-- Where nothing with a lower number is in front, nothing is passed over. -/
theorem eq_append_of_contextField (hhead : ∀ e ∈ es.head?, ¬ HasContextUpTo number e)
    (h : contextField (number + 1) es = some (found, rest)) : es = found.toList ++ rest := by
  cases es with
  | nil =>
      obtain ⟨rfl, rfl⟩ := Prod.mk.inj (Option.some.inj h)
      rfl
  | cons e tail =>
      rw [contextField] at h
      split at h
      · rename_i hcontext
        split at h
        · obtain ⟨rfl, rfl⟩ := Prod.mk.inj (Option.some.inj h)
          rfl
        · rename_i hlower
          refine absurd ⟨hcontext.1, hcontext.2.1, ?_⟩ (hhead e rfl)
          omega
      · obtain ⟨rfl, rfl⟩ := Prod.mk.inj (Option.some.inj h)
        rfl

/-- Where the first of two optional fields is absent, the second and the rest are all there is. -/
theorem eq_append_of_absent {α β : Type} {f : Element → Option α} {g : Element → Option β}
    {second : Option β} {between : List Element}
    (habsent : readContext 0 f es = some (none, between))
    (hsecond : readContext 1 g between = some (second, rest)) :
    ∃ found : Option Element, es = found.toList ++ rest ∧ ∀ e ∈ found, ∃ b, g e = some b := by
  have hhead : ∀ e ∈ between.head?, ¬ HasContextUpTo 0 e := by
    rcases readContext_cases habsent with ⟨_, hfound⟩ | ⟨_, _, hsome, _⟩
    · exact head_of_contextField_none hfound
    · cases hsome
  have hsame : es = between := by
    rcases readContext_zero_cases habsent with ⟨_, hsame, _⟩ | ⟨_, _, hsome, _⟩
    · exact hsame
    · cases hsome
  subst hsame
  rcases readContext_cases hsecond with ⟨_, hfound⟩ | ⟨e, b, _, hfound, hread⟩
  · exact ⟨none, eq_append_of_contextField hhead hfound, by simp⟩
  · refine ⟨some e, eq_append_of_contextField hhead hfound, ?_⟩
    intro e' he'
    obtain rfl := Option.some.inj he'
    exact ⟨b, hread⟩

end Der.Fields

namespace Cms.SignedData

variable {e : Element} {d : SignedData} {der : Bytes}

/-- Signed data without certificates has no field for them. -/
theorem certificateElements_of_none (h : ofElement? e = some d) (hnone : d.certificates = none) :
    certificateElements e = [] := by
  obtain ⟨_, es, helements, hfields⟩ := fieldsOf?_eq_some h
  obtain ⟨version, _, _, rfl, hversion, hrest⟩ := Fields.read_bind_eq_some_iff.1 hfields
  obtain ⟨digests, _, _, rfl, hdigests, hrest⟩ := Fields.read_bind_eq_some_iff.1 hrest
  obtain ⟨content, _, afterContent, rfl, hcontent, hrest⟩ := Fields.read_bind_eq_some_iff.1 hrest
  obtain ⟨certificates, afterCertificates, hcertificates, hrest⟩ := Fields.bind_eq_some_iff.1 hrest
  obtain ⟨_, afterCrls, hcrls, hrest⟩ := Fields.bind_eq_some_iff.1 hrest
  obtain ⟨signers, _, _, rfl, hsigners, hrest⟩ := Fields.read_bind_eq_some_iff.1 hrest
  obtain ⟨rfl, rfl⟩ := Fields.pure_eq_some_iff.1 hrest
  obtain rfl : certificates = none := hnone
  obtain ⟨crls, rfl, hread⟩ := Fields.eq_append_of_absent hcertificates hcrls
  have hversionTag : version.tag ≠ Tag.constructedContext 0 := by
    rw [SignerInfo.version?_tag hversion]
    decide
  have hdigestsTag : digests.tag ≠ Tag.constructedContext 0 := by
    rw [(setOf?_eq_some hdigests).1]
    decide
  have hcontentTag : content.tag ≠ Tag.constructedContext 0 := by
    rw [(fieldsOf?_eq_some hcontent).1]
    decide
  have hcrlsTag : ∀ field ∈ crls, field.tag ≠ Tag.constructedContext 0 := by
    intro field hfield
    obtain ⟨_, hvalue⟩ := hread field hfield
    rw [(setOf?_eq_some hvalue).1]
    decide
  have hsignersTag : signers.tag ≠ Tag.constructedContext 0 := by
    rw [(setOf?_eq_some hsigners).1]
    decide
  have hfind : e.children.find? (·.tag == Tag.constructedContext 0) = none := by
    rw [Element.children_of_elements? helements, List.find?_eq_none]
    have hrest : ∀ field ∈ crls.toList ++ [signers], field.tag ≠ Tag.constructedContext 0 := by
      intro field hfield
      rcases List.mem_append.1 hfield with hmem | hmem
      · exact hcrlsTag field (Option.mem_toList.1 hmem)
      · exact List.mem_singleton.1 hmem ▸ hsignersTag
    simpa [hversionTag, hdigestsTag, hcontentTag] using hrest
  rw [certificateElements, hfind, Option.elim_none]

/-- Every certificate in the input has a form, which is taken for a certificate. -/
theorem exists_form_of_mem {certificate : Element} (h : ofElement? e = some d)
    (hmem : certificate ∈ certificateElements e) :
    ∃ form, Canonical.certificate? certificate = some form ∧ form.encode ∈ d.properCertificates := by
  cases hforms : d.certificates with
  | none =>
      rw [certificateElements_of_none h hforms] at hmem
      cases hmem
  | some forms =>
      obtain ⟨field, members, hfield, hmembers, hsort⟩ := certificates_of_ofElement? h hforms
      rw [certificateElements, hfield, Option.elim_some] at hmem
      obtain ⟨hchild, htag⟩ := List.mem_filter.1 hmem
      obtain ⟨form, hmember, hform⟩ := exists_of_mapM hmembers hchild
      rw [Canonical.certificateChoice?, if_pos (eq_of_beq htag)] at hform
      have hheld : form ∈ forms := (sortMembers_perm hsort).symm.subset hmember
      have hformTag : (form.tag == Tag.sequence) = true := by
        rw [(Canonical.canonizes_certificate.shrunk hform).tag]
        exact htag
      refine ⟨form, hform, ?_⟩
      simp only [properCertificates, hforms, Option.getD_some]
      exact List.mem_map_of_mem (List.mem_filter.2 ⟨hheld, hformTag⟩)

/-- What is taken for certificates are the forms of the certificates in the input, all of them. -/
theorem mem_properCertificates_iff (h : ofElement? e = some d) :
    der ∈ d.properCertificates ↔
      ∃ certificate ∈ certificateElements e, ∃ form,
        Canonical.certificate? certificate = some form ∧ der = form.encode := by
  constructor
  · intro hder
    obtain ⟨certificate, hmem, form, hform, hencode, _⟩ := properCertificates_cases h hder
    exact ⟨certificate, hmem, form, hform, hencode⟩
  · rintro ⟨certificate, hmem, form, hform, rfl⟩
    obtain ⟨form', hform', htaken⟩ := exists_form_of_mem h hmem
    obtain rfl := Option.some.inj (hform.symm.trans hform')
    exact htaken

end Cms.SignedData

namespace Sod

namespace SignerId

variable {id : SignerId} {c : Certificate}

/-- A certificate fits the name of a signer: it has the issuer and the serial number that are named,
in any spelling, or the key. -/
inductive Fits : SignerId → Certificate → Prop
  | serial {issuer serial : String} {c : Certificate}
      (same_serial : SerialNumber.normalize c.serial = SerialNumber.normalize serial)
      (same_issuer : DistinguishedName.same c.issuer issuer = true) :
      Fits (.issuerAndSerial issuer serial) c
  | key {id : String} {c : Certificate} (same_key : c.subjectKeyId = some id) :
      Fits (.subjectKeyId id) c

/-- The serial number, if one is named, is in normal form. -/
def IsNormal (id : SignerId) : Prop :=
  ∀ issuer serial, id = .issuerAndSerial issuer serial → SerialNumber.normalize serial = serial

theorem isNormal_of_ofIdentifier {named : Cms.SignerIdentifier} (h : ofIdentifier named = .ok id) :
    id.IsNormal := by
  rintro issuer serial rfl
  cases named with
  | issuerAndSerial name octets =>
      simp only [ofIdentifier] at h
      split at h
      · obtain ⟨_, rfl⟩ := issuerAndSerial.inj (Except.ok.inj h)
        exact SerialNumber.normalize_ofBytes octets
      · cases h
  | subjectKeyId key => cases Except.ok.inj h

theorem fits_of_names (h : id.names c = true) : id.Fits c := by
  cases id with
  | issuerAndSerial issuer serial =>
      obtain ⟨hserial, hissuer⟩ := Bool.and_eq_true_iff.1 h
      exact .serial (congrArg _ (eq_of_beq hserial)) hissuer
  | subjectKeyId key => exact .key (eq_of_beq h)

/-- Where both serial numbers are in normal form, to compare their texts is enough. -/
theorem names_of_fits (hid : id.IsNormal) (hc : SerialNumber.normalize c.serial = c.serial)
    (h : id.Fits c) : id.names c = true := by
  cases h with
  | serial hserial hissuer =>
      rw [hc, hid _ _ rfl] at hserial
      simp [names, hserial, hissuer]
  | key hkey => simp [names, hkey]

end SignerId

namespace SecurityObject

variable {octets : Bytes} {so : SecurityObject} {c : Certificate} {element : Element}
  {d : Cms.SignedData}

/-- What is read of a certificate in signed data, in its form. -/
def Reads (e : Element) (c : Certificate) : Prop :=
  ∃ form, Canonical.certificate? e = some form ∧ Certificate.ofDer .dsc form.encode = .ok c

/-- A certificate is embedded in an encoded security object. -/
def Embeds (octets : Bytes) (c : Certificate) : Prop :=
  ∃ e ∈ certificateElements octets, Reads e c

theorem normalize_serial_of_embeds (h : Embeds octets c) :
    SerialNumber.normalize c.serial = c.serial := by
  obtain ⟨_, _, _, _, hread⟩ := h
  exact Certificate.normalize_serial_of_ofDer hread

/-- All certificates in the input are read, and the embedded signer is the first that is named. -/
theorem exists_find?_of_decode (h : decode octets = .ok so) :
    ∃ certificates : List Certificate, so.embeddedSigner = certificates.find? so.signerId.names ∧
      (∀ c, c ∈ certificates ↔ Embeds octets c) ∧
      ∀ e ∈ certificateElements octets, ∃ c, Reads e c := by
  obtain ⟨element, d, _, hdata, _, _, hsigner, _⟩ := decode_cases h
  obtain ⟨certificates, hread, hfind⟩ := bind_eq_ok_iff.1 hsigner
  have hd : Cms.SignedData.ofElement? element = some d := signedData_read hdata
  have helements : certificateElements octets = Cms.SignedData.certificateElements element := by
    simp [certificateElements, hdata, Except.toOption]
  refine ⟨certificates, (Except.ok.inj hfind).symm, fun c => ⟨fun hc => ?_, fun hc => ?_⟩, ?_⟩
  · obtain ⟨der, hder, hof⟩ := exists_of_mem_mapM hread hc
    obtain ⟨e, he, form, hform, rfl⟩ := (Cms.SignedData.mem_properCertificates_iff hd).1 hder
    exact ⟨e, helements ▸ he, form, hform, hof⟩
  · obtain ⟨e, he, form, hform, hof⟩ := hc
    have hder : form.encode ∈ d.properCertificates :=
      (Cms.SignedData.mem_properCertificates_iff hd).2 ⟨e, helements ▸ he, form, hform, rfl⟩
    obtain ⟨c', hc', hof'⟩ := exists_ok_of_mapM hread hder
    obtain rfl := Except.ok.inj (hof.symm.trans hof')
    exact hc'
  · intro e he
    obtain ⟨form, hform, hder⟩ := Cms.SignedData.exists_form_of_mem hd (helements ▸ he)
    obtain ⟨c, _, hof⟩ := exists_ok_of_mapM hread hder
    exact ⟨c, form, hform, hof⟩

theorem isNormal_signerId (h : decode octets = .ok so) : so.signerId.IsNormal := by
  obtain ⟨_, _, _, _, _, htaken, _⟩ := decode_cases h
  exact SignerId.isNormal_of_ofIdentifier htaken.signerId

theorem embeddedSigner_fits (h : decode octets = .ok so) (hembedded : so.embeddedSigner = some c) :
    Embeds octets c ∧ so.signerId.Fits c := by
  obtain ⟨certificates, hfind, hmem, _⟩ := exists_find?_of_decode h
  rw [hfind] at hembedded
  exact ⟨(hmem c).1 (List.mem_of_find?_eq_some hembedded),
    SignerId.fits_of_names (List.find?_some hembedded)⟩

theorem embeddedSigner_eq_none_iff (h : decode octets = .ok so) :
    so.embeddedSigner = none ↔ ∀ c, Embeds octets c → ¬ so.signerId.Fits c := by
  constructor
  · intro hnone c hembeds hfits
    obtain ⟨certificates, hfind, hmem, _⟩ := exists_find?_of_decode h
    rw [hfind, List.find?_eq_none] at hnone
    apply hnone c ((hmem c).2 hembeds)
    exact SignerId.names_of_fits (isNormal_signerId h) (normalize_serial_of_embeds hembeds) hfits
  · intro hother
    apply Option.eq_none_iff_forall_ne_some.2
    intro c hembedded
    obtain ⟨hembeds, hfits⟩ := embeddedSigner_fits h hembedded
    exact hother c hembeds hfits

/-- A certificate that a store finds fits the name that it is asked for. -/
theorem fits_of_findBySerialAndIssuer? {s : CertificateStore} {issuer serial : String}
    (h : s.findBySerialAndIssuer? serial issuer = some c) :
    (SignerId.issuerAndSerial issuer serial).Fits c := by
  have hfound := List.find?_some h
  obtain ⟨hserial, hissuer⟩ := Bool.and_eq_true_iff.1 hfound
  refine .serial ?_ hissuer
  rw [eq_of_beq hserial, SerialNumber.normalize_normalize]

/-- Over a store, the signer is the embedded one, or the one that is stored under the name if no
embedded certificate fits that and none has to. -/
theorem signer_verify_iff {s : CertificateStore} {verifier : SignatureVerifier} {required : Bool}
    (h : decode octets = .ok so) :
    ((SodVerifier.mk s.repository verifier required).verify octets).signer = some c ↔
      so.embeddedSigner = some c ∨
        (∀ other, Embeds octets other → ¬ so.signerId.Fits other) ∧ required = false ∧
          ∃ issuer serial, so.signerId = .issuerAndSerial issuer serial ∧
            s.findBySerialAndIssuer? serial issuer = some c := by
  rw [SodVerifier.verify, h, ← embeddedSigner_eq_none_iff h]
  refine SodVerifier.signer_verifyDecoded_iff.trans (or_congr_right ?_)
  constructor
  · rintro ⟨issuer, serial, hlooked, hfound⟩
    exact ⟨hlooked.not_embedded, hlooked.not_required, issuer, serial, hlooked.named,
      Except.ok.inj hfound⟩
  · rintro ⟨hnone, hallowed, issuer, serial, hid, hfound⟩
    exact ⟨issuer, serial, ⟨hnone, hallowed, hid⟩, congrArg Except.ok hfound⟩

/-- The signer of a security object that octets encode is the one that is named there. -/
structure SignerIsNamed (so : SecurityObject) (octets : Bytes) : Prop where
  /-- The name is that in signer information of the input. -/
  named : ∃ element d info, signedData octets = .ok (element, d) ∧ d.signers.head? = some info ∧
    SignerId.ofIdentifier info.signer = .ok so.signerId
  /-- No certificate in the input is left out. -/
  all_read : ∀ e ∈ certificateElements octets, ∃ c, Reads e c
  embedded : ∀ c, so.embeddedSigner = some c → Embeds octets c ∧ so.signerId.Fits c
  not_embedded : so.embeddedSigner = none → ∀ c, Embeds octets c → ¬ so.signerId.Fits c
  /-- The signer that verification finds over a store fits the name too. -/
  found : ∀ (s : CertificateStore) (verifier : SignatureVerifier) (required : Bool)
    (c : Certificate),
      ((SodVerifier.mk s.repository verifier required).verify octets).signer = some c →
        so.signerId.Fits c
  /-- It is the embedded one, or else one that is stored under the issuer and serial number. -/
  found_iff : ∀ (s : CertificateStore) (verifier : SignatureVerifier) (required : Bool)
    (c : Certificate),
      ((SodVerifier.mk s.repository verifier required).verify octets).signer = some c ↔
        so.embeddedSigner = some c ∨
          (∀ other, Embeds octets other → ¬ so.signerId.Fits other) ∧ required = false ∧
            ∃ issuer serial, so.signerId = .issuerAndSerial issuer serial ∧
              s.findBySerialAndIssuer? serial issuer = some c

/-- Whatever certificates come with a security object, in whatever order, and whatever a store holds:
the certificate that is taken for the signer is one that the signer information names. -/
theorem decode_signerIsNamed (h : decode octets = .ok so) : so.SignerIsNamed octets := by
  obtain ⟨element, d, info, hdata, hinfo, htaken, _⟩ := decode_cases h
  obtain ⟨_, _, _, hread⟩ := exists_find?_of_decode h
  constructor
  · exact ⟨element, d, info, hdata, hinfo, htaken.signerId⟩
  · exact hread
  · intro c hembedded
    exact embeddedSigner_fits h hembedded
  · exact (embeddedSigner_eq_none_iff h).1
  · intro s verifier required c hsigner
    rcases (signer_verify_iff h).1 hsigner with hembedded | ⟨_, _, issuer, serial, hid, hstored⟩
    · exact (embeddedSigner_fits h hembedded).2
    · rw [hid]
      exact fits_of_findBySerialAndIssuer? hstored
  · intro s verifier required c
    exact signer_verify_iff h

end SecurityObject

end Sod

namespace Specimen

open Cms Sod SecurityObject

/-- A certificate of the same issuer under another number, which comes before that of the signer. -/
def neighbour : Element :=
  construct Tag.sequence [
    construct Tag.sequence [⟨Tag.integer, [0x50]⟩, ed25519.element, rootName.element,
      construct Tag.sequence [newYear 0x30, newYear 0x31], (commonName [0x44, 0x53]).element,
      construct Tag.sequence [ed25519.element, ⟨Tag.bitString, [0, 7]⟩]],
    ed25519.element, ⟨Tag.bitString, [0, 7]⟩]

/-- A security object with two certificates, not in their order. -/
def crowded : Bytes :=
  (ContentInfo.element ⟨signedDataOid,
    { embeddingData with certificates := some [encodedSigner, neighbour] }.element⟩).encode

/-- Of two certificates the one is taken that is named, though it is not the first. -/
theorem crowded_signerIsNamed :
    ∃ so c, decode crowded = .ok so ∧ so.embeddedSigner = some c ∧ c.der = encodedSigner.encode ∧
      certificateElements crowded = [encodedSigner, neighbour] ∧ so.SignerIsNamed crowded := by
  have hembeds : (decode crowded).toOption.any (fun so => so.embeddedSigner.any fun c =>
      c.der == encodedSigner.encode) = true := by
    decide +kernel
  have helements : certificateElements crowded = [encodedSigner, neighbour] := by
    decide +kernel
  obtain ⟨so, hso, hsome⟩ := (Option.any_eq_true ..).1 hembeds
  obtain ⟨c, hc, hder⟩ := (Option.any_eq_true ..).1 hsome
  have h := toOption_eq_some_iff.1 hso
  exact ⟨so, c, h, hc, eq_of_beq hder, helements, decode_signerIsNamed h⟩

end Specimen

end Mrtd
