import Mrtd.Authentication
import Mrtd.Proofs.Sod.Signers
import Mrtd.Proofs.Sod.Verdict
import Mrtd.Proofs.Text.Case
import Mrtd.Proofs.Trust.Report

/-!
What a document that passes has shown. The verdict is put together from the signature of the security
object, the report on its signer and the comparison of the data groups; each part is taken apart in
turn, and no failed check is lost on the way to the verdict.
-/

namespace Mrtd

open Sod

namespace CertificateStore

variable {s : CertificateStore}

theorem findByCountryAndType_repository (country : String) (type : CertificateType) :
    s.repository.findByCountryAndType country type =
      .ok ((s.findByCountry country).filter (·.type == type)) := rfl

/-- Two certificates of a store with one fingerprint are one certificate. -/
theorem eq_of_fingerprint_eq {cs : List Certificate} {c d : Certificate}
    (hc : c ∈ (ofList cs).certificates) (hd : d ∈ (ofList cs).certificates)
    (h : c.fingerprint = d.fingerprint) : c = d :=
  List.inj_on_of_nodup_map (nodup_ofList cs) hc hd h

end CertificateStore

namespace Authenticator

variable {a : Authenticator} {s : CertificateStore} {now : Timestamp}
  {request : AuthenticationRequest} {signature : SodVerification} {signer anchor : Certificate}
  {country : String} {verdict : SignerVerdict} {report : AuthenticationReport}

/-- The anchor is an authority of the country that the signer names as its issuer. -/
theorem resolveAnchor_eq_some (hstore : a.certificates = s.repository)
    (h : a.resolveAnchor signer country = .ok (some anchor)) :
    anchor ∈ s.certificates ∧ anchor.type = .csca ∧
      (∃ code ∈ anchor.country, Text.eqIgnoreAsciiCase code country = true) ∧
      DistinguishedName.same anchor.subject signer.issuer = true := by
  obtain ⟨authorities, hfound, hselect⟩ := bind_eq_ok_iff.1 h
  rw [hstore, CertificateStore.findByCountryAndType_repository] at hfound
  obtain rfl := Except.ok.inj hfound
  have hmem := IssuerCandidates.mem_of_select (Except.ok.inj hselect)
  obtain ⟨hmem, hname⟩ := List.mem_filter.1 hmem
  obtain ⟨hmem, htype⟩ := List.mem_filter.1 hmem
  obtain ⟨hheld, hcountry⟩ := List.mem_filter.1 hmem
  exact ⟨hheld, eq_of_beq htype, (Option.any_eq_true ..).1 hcountry, hname⟩

theorem isBlocking_eq_false_iff {kind : FindingKind} :
    a.isBlocking kind = false ↔
      a.policy.validation.tolerateExpiredSigner = true ∧ kind = .expired := by
  simp [isBlocking]

theorem judgeSigner_cases (h : a.judgeSigner now signer country = .ok verdict)
    (hvalid : verdict.valid = true) :
    ∃ anchor report, a.resolveAnchor signer country = .ok (some anchor) ∧
      a.validator.validate now signer (some anchor) a.policy.validation.checkRevocation =
        .ok report ∧
      ∀ f ∈ report.findings,
        a.policy.validation.tolerateExpiredSigner = true ∧ f.kind = .expired := by
  obtain ⟨anchor, hanchor, h⟩ := bind_eq_ok_iff.1 h
  obtain ⟨report, hreport, h⟩ := bind_eq_ok_iff.1 h
  obtain rfl := Except.ok.inj h
  simp only [Bool.not_eq_true', List.any_eq_false, Bool.not_eq_true, isBlocking_eq_false_iff,
    List.mem_append] at hvalid
  cases anchor with
  | none =>
      obtain ⟨_, hkind⟩ := hvalid _ (.inr List.mem_cons_self)
      cases hkind
  | some anchor => exact ⟨anchor, report, hanchor, hreport, fun f hf => hvalid f (.inl hf)⟩

/-- Only a signer that was found and judged is valid. -/
theorem signerVerdict_cases {found : Option Certificate} {unjudged : Option String}
    (h : a.signerVerdict now found country = .ok (verdict, unjudged))
    (hvalid : verdict.valid = true) :
    ∃ signer, found = some signer ∧ a.judgeSigner now signer country = .ok verdict := by
  unfold signerVerdict at h
  split at h
  · obtain ⟨rfl, _⟩ := Prod.mk.inj (Except.ok.inj h)
    cases hvalid
  · rename_i signer
    split at h
    · rename_i judged hjudged
      obtain ⟨rfl, _⟩ := Prod.mk.inj (Except.ok.inj h)
      exact ⟨signer, rfl, hjudged⟩
    · split at h
      · cases h
      · obtain ⟨rfl, _⟩ := Prod.mk.inj (Except.ok.inj h)
        cases hvalid

theorem conclude_cases (h : a.conclude now request signature = .ok report) :
    report.signature = signature ∧
      report.dataGroups = signature.table.map (fun table =>
        .compare table.algorithm table.digests request.dataGroups) ∧
      ∃ unjudged, a.signerVerdict now signature.signer
        (Text.asciiUpper (Text.trim request.issuingCountry)) = .ok (report.signer, unjudged) := by
  unfold conclude at h
  split at h
  · cases h
  · obtain ⟨⟨signer, unjudged⟩, hsigner, h⟩ := bind_eq_ok_iff.1 h
    obtain rfl := Except.ok.inj h
    exact ⟨rfl, rfl, unjudged, hsigner⟩

/-- What a document that passes has shown: its security object, the signer of that, the authority
that the signer is traced to and the chain between the two. -/
structure Establishes (a : Authenticator) (s : CertificateStore) (now : Timestamp)
    (request : AuthenticationRequest) (so : SecurityObject) (signer csca : Certificate)
    (chain : TrustChain) : Prop where
  decoded : SecurityObject.decode request.sod = .ok so
  /-- The signer is embedded, or stored where none is embedded and none has to be. -/
  identified : so.embeddedSigner = some signer ∨
    so.embeddedSigner = none ∧ a.policy.requireEmbeddedSigner = false ∧
      ∃ issuer serial, so.signerId = .issuerAndSerial issuer serial ∧
        s.findBySerialAndIssuer? serial issuer = some signer
  signed : ∃ algorithm,
    SignatureAlgorithm.ofOid so.signatureAlgorithm so.digestAlgorithm = .ok algorithm ∧
      a.verifier.content signer.publicKey algorithm so.signedBytes so.signature = .ok true
  digest : ∀ attributes ∈ so.signedAttributes,
    so.digestAlgorithm.digest so.content = attributes.messageDigest
  authority_held : csca ∈ s.certificates
  authority_type : csca.type = .csca
  authority_country : ∃ code ∈ csca.country,
    Text.eqIgnoreAsciiCase code (Text.trim request.issuingCountry) = true
  authority_name : DistinguishedName.same csca.subject signer.issuer = true
  vouched : a.validator.Vouches s now signer (some csca) a.policy.validation.checkRevocation chain
  not_expired : now ≤ signer.notAfter ∨ a.policy.validation.tolerateExpiredSigner = true
  presented : OrderedTable.ofList compare request.dataGroups ≠ []
  /-- Every group presented is listed with its digest. -/
  agree : ∀ group ∈ OrderedTable.ofList compare request.dataGroups,
    OrderedTable.find? group.1 so.table.digests = some (so.table.algorithm.digest group.2)

/-- Without the tolerance the report that judges the signer has no findings. -/
theorem not_expired_of_validate {v : CertificateValidator} {anchor : Option Certificate}
    {checkRevocation tolerates : Bool} {report : ValidationReport}
    (h : v.validate now signer anchor checkRevocation = .ok report)
    (hfindings : ∀ f ∈ report.findings, tolerates = true ∧ f.kind = .expired) :
    now ≤ signer.notAfter ∨ tolerates = true := by
  cases hempty : report.findings with
  | nil => exact .inl (CertificateValidator.notAfter_of_no_findings h hempty)
  | cons f _ => exact .inr (hfindings f (hempty ▸ List.mem_cons_self)).1

/-- A document passes only if everything that is to be checked was checked and is as it should be:
its signature, its signer and each data group presented. -/
theorem passed_sound {cs : List Certificate} {crls : RevocationListStore}
    {verifier : SignatureVerifier} {policy : AuthenticationPolicy} {now : Timestamp}
    {request : AuthenticationRequest} {report : AuthenticationReport}
    (h : (Authenticator.mk (CertificateStore.ofList cs).repository crls.repository verifier
      policy).authenticate now request = .ok report)
    (hpassed : report.passed = true) :
    ∃ so signer csca chain,
      (Authenticator.mk (CertificateStore.ofList cs).repository crls.repository verifier
        policy).Establishes (.ofList cs) now request so signer csca chain := by
  obtain ⟨hsignature, hgroups, unjudged, hverdict⟩ := conclude_cases h
  simp only [AuthenticationReport.passed, Bool.and_eq_true] at hpassed
  obtain ⟨⟨⟨⟨_, hvalid⟩, htrusted⟩, _⟩, hagree⟩ := hpassed
  -- The security object: it is decoded, its signer is found and its signature verifies.
  rw [hsignature] at hvalid
  obtain ⟨so, hdecode, hverify⟩ := SodVerifier.decode_of_isValid hvalid
  rw [hverify] at hvalid hgroups hverdict
  obtain ⟨algorithm, found, halgorithm, hfound, hdigest, hcontent⟩ :=
    SodVerifier.isValid_verifyDecoded_iff.1 hvalid
  -- The signer: it is the one that was found, and nothing blocks it.
  obtain ⟨signer, hsigner, hjudged⟩ := signerVerdict_cases hverdict htrusted
  obtain rfl : found = signer := by
    simpa [SodVerifier.verifyDecoded, hfound, Except.toOption] using hsigner
  obtain ⟨anchor, validation, hanchor, hvalidate, hfindings⟩ := judgeSigner_cases hjudged htrusted
  obtain ⟨hheld, htype, hcountry, hname⟩ := resolveAnchor_eq_some rfl hanchor
  simp only [Text.eqIgnoreAsciiCase_asciiUpper] at hcountry
  have hcopies : ∀ a ∈ some anchor, ∀ copy ∈ (CertificateStore.ofList cs).certificates,
      copy.fingerprint = a.fingerprint →
        verifier.certificate found copy = verifier.certificate found a := by
    intro a ha copy hcopy heq
    obtain rfl := Option.some.inj ha
    rw [CertificateStore.eq_of_fingerprint_eq hcopy hheld heq]
  obtain ⟨chain, _, hvouched⟩ := CertificateValidator.vouches_of_validate rfl hcopies hvalidate
    fun f hf => (hfindings f hf).2
  have hidentified : so.embeddedSigner = some found ∨
      so.embeddedSigner = none ∧ policy.requireEmbeddedSigner = false ∧
        ∃ issuer serial, so.signerId = .issuerAndSerial issuer serial ∧
          (CertificateStore.ofList cs).findBySerialAndIssuer? serial issuer = some found := by
    rcases SodVerifier.resolveSigner_eq_ok_iff.1 hfound with hembedded | ⟨hnone, hallowed, issuer,
      serial, hid, hstored⟩
    · exact .inl hembedded
    · exact .inr ⟨hnone, hallowed, issuer, serial, hid, Except.ok.inj hstored⟩
  -- The data groups: there are some, and all of them agree.
  have hcompared : report.dataGroups =
      some (.compare so.table.algorithm so.table.digests request.dataGroups) := hgroups
  rw [hcompared] at hagree
  obtain ⟨hinvalid, htotal⟩ := Bool.and_eq_true_iff.1 hagree
  exact ⟨so, found, anchor, chain, {
    decoded := hdecode
    identified := hidentified
    signed := ⟨algorithm, halgorithm, hcontent⟩
    digest := hdigest
    authority_held := hheld
    authority_type := htype
    authority_country := hcountry
    authority_name := hname
    vouched := hvouched
    not_expired := not_expired_of_validate hvalidate hfindings
    presented := DataGroupReport.presented_of_total (of_decide_eq_true htotal)
    agree := DataGroupReport.allValid_compare_iff.1 hinvalid }⟩

end Authenticator

namespace Specimen

/-- The issuer of the signer as signer information names it. -/
def issuerName : Der.Name :=
  ⟨[[⟨⟨[0x55, 0x04, 0x03]⟩,
    ⟨Der.Tag.printableString, [0x53, 0x75, 0x63, 0x63, 0x65, 0x73, 0x73, 0x6F, 0x72]⟩⟩]]⟩

/-- The digest of the one data group of the document. -/
def listed : List (Nat × Bytes) := [(1, DigestAlgorithm.sha1.digest [1, 2, 3])]

/-- A document with a signer that is stored and not embedded. -/
def request : AuthenticationRequest where
  sod := encodedObject listed [signerInfo (.issuerAndSerial issuerName [0x51])
    (DigestAlgorithm.sha1.digest (tableOctets listed))]
  dataGroups := [(1, [1, 2, 3])]
  issuingCountry := " kr "
  documentNumber := "M1"

def authenticator : Authenticator :=
  ⟨store.repository, (RevocationListStore.empty.ingest list).repository, verifier, {}⟩

theorem request_sound :
    ∃ report, authenticator.authenticate 50 request = .ok report ∧ report.passed = true ∧
      ∃ so signer csca chain, authenticator.Establishes store 50 request so signer csca chain := by
  have hpasses : (authenticator.authenticate 50 request).toOption.any (·.passed) = true := by
    decide +kernel
  obtain ⟨report, hreport, hpassed⟩ := (Option.any_eq_true ..).1 hpasses
  have h := toOption_eq_some_iff.1 hreport
  exact ⟨report, h, hpassed, Authenticator.passed_sound h hpassed⟩

end Specimen

end Mrtd
