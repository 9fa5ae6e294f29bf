import Mrtd.Proofs.Sod.Signers
import Mrtd.Proofs.StoreOrder
import Mrtd.Proofs.Trust.Filing

/-!
Where the certificate of a signer comes from. An embedded certificate is read as that of a signer;
one that is looked up comes as the record that is stored, under the role it was filed under. Two
documents of which the one embeds what the other leaves to the look-up are judged by the same walk
and the same signatures, so their verdicts agree but for the checks that ask for the role.
-/

namespace Mrtd

namespace Certificate

variable {c r : Certificate} {f : Filing}

/-- Records that were read from one encoding hold the same certificate. -/
theorem eq_filedAs_of_isRead (hc : ofDer .dsc c.der = .ok c) (hr : r.IsRead) (hder : r.der = c.der) :
    r = c.filedAs ⟨r.type, r.uploadId, r.storedInLdap⟩ := by
  have hread : ofDer r.type c.der = .ok { r with uploadId := none, storedInLdap := false } :=
    hder ▸ hr
  rw [ofDer_filedAs .dsc, hc] at hread
  have hrecord : c.filedAs { type := r.type } = { r with uploadId := none, storedInLdap := false } :=
    Except.ok.inj hread
  have hsame : (c.filedAs { type := r.type }).filedAs ⟨r.type, r.uploadId, r.storedInLdap⟩ = r := by
    rw [hrecord]
    rfl
  exact hsame.symm

/-- For master list signers the extensions must be those of document signers. -/
theorem fitsRole_filedAs_iff (hc : c.type = .dsc) (hf : f.type = .dsc ∨ f.type = .mlsc) :
    (c.filedAs f).FitsRole ↔ c.FitsRole := by
  rcases hf with hf | hf <;> simp only [FitsRole, filedAs_type, hc, hf] <;> rfl

end Certificate

/-- Two verdicts that depend alike on everything but the role of the signer. -/
structure SignerVerdict.SameButRole (fits fits' : Prop) (verdict verdict' : SignerVerdict) :
    Prop where
  valid : ∃ others : Prop, (verdict.valid = true ↔ fits ∧ others) ∧
    (verdict'.valid = true ↔ fits' ∧ others)
  revocation : verdict.revocation = verdict'.revocation

namespace Authenticator

open Sod

variable {a : Authenticator} {now : Timestamp} {c : Certificate} {f : Filing} {country : String}
  {request : AuthenticationRequest}

theorem isBlocking_of_ne {kind : FindingKind} (h : kind ≠ .expired) : a.isBlocking kind = true := by
  simp [isBlocking, h]

/-- What is filed of the certificate's own fields blocks it unless the fields fit its role and its
window does not block it. -/
theorem unblocked_ownFindings_iff :
    (∀ finding ∈ c.ownFindings now, a.isBlocking finding.kind = false) ↔
      c.FitsRole ∧ ∀ finding ∈ c.validityFinding now, a.isBlocking finding.kind = false := by
  have hfault : ∀ (kind : FindingKind) (fault : Option String), kind ≠ .expired →
      ((∀ finding ∈ (fault.map (Finding.about c kind)).toList,
        a.isBlocking finding.kind = false) ↔ fault = none) := by
    intro kind fault hkind
    cases fault with
    | none => simp
    | some fault => simp [Finding.about, isBlocking_of_ne hkind]
  rw [Certificate.ownFindings, List.forall_mem_append, List.forall_mem_append,
    Certificate.basicConstraintsFinding, Certificate.keyUsageFinding,
    hfault .basicConstraintsMismatch _ (by decide), hfault .keyUsageMismatch _ (by decide),
    Certificate.fitsRole_iff]
  simp only [Option.mem_toList]
  tauto

theorem resolveAnchor_filedAs (hverifier : a.verifier.IgnoresFiling) :
    a.resolveAnchor (c.filedAs f) country = a.resolveAnchor c country := by
  simp only [resolveAnchor, IssuerCandidates.select_filedAs hverifier]
  rfl

/-- The same certificate, judged under two filings. -/
theorem judgeSigner_filedAs (hverifier : a.verifier.IgnoresFiling) :
    Alike (SignerVerdict.SameButRole c.FitsRole (c.filedAs f).FitsRole)
      (a.judgeSigner now c country) (a.judgeSigner now (c.filedAs f) country) := by
  refine Alike.bind (.of_eq (resolveAnchor_filedAs hverifier).symm) ?_
  rintro anchor _ ⟨rfl, _⟩
  refine Alike.bind (CertificateValidator.validate_filedAs (f := f) hverifier) ?_
  intro report filed hsame
  obtain ⟨others, hfindings, hfiled⟩ := hsame.findings
  refine .done ⟨?_, hsame.revocation.symm⟩
  have hvalid : ∀ (own missing : List Finding),
      ((!(own ++ others ++ missing).any fun finding => a.isBlocking finding.kind) = true ↔
        (∀ finding ∈ own, a.isBlocking finding.kind = false) ∧
          ∀ finding ∈ others ++ missing, a.isBlocking finding.kind = false) := by
    intro own missing
    simp only [List.append_assoc, List.any_append, Bool.not_eq_true', Bool.or_eq_false_iff,
      List.any_eq_false, Bool.not_eq_true, List.forall_mem_append]
  simp only [hfindings, hfiled, hvalid, unblocked_ownFindings_iff, and_assoc]
  exact ⟨_, Iff.rfl, Iff.rfl⟩

theorem signerVerdict_filedAs (hverifier : a.verifier.IgnoresFiling) :
    Alike (fun judged judged' => SignerVerdict.SameButRole c.FitsRole (c.filedAs f).FitsRole
        judged.1 judged'.1 ∧ judged.2 = judged'.2)
      (a.signerVerdict now (some c) country) (a.signerVerdict now (some (c.filedAs f)) country) := by
  refine signerVerdict_alike (judgeSigner_filedAs hverifier) ?_ ?_
  · intro verdict verdict' hsame
    exact ⟨hsame, rfl⟩
  · intro text
    refine ⟨⟨⟨False, ?_, ?_⟩, rfl⟩, rfl⟩ <;> simp

end Authenticator

namespace Sod.SodVerifier

variable {v : SodVerifier} {so : SecurityObject} {c : Certificate} {f : Filing}

/-- What is found of a security object whose signer is looked up and not embedded. -/
theorem verifyDecoded_filedAs (hembedded : so.embeddedSigner = some c)
    (hresolve : v.resolveSigner { so with embeddedSigner := none } = .ok (c.filedAs f)) :
    v.verifyDecoded { so with embeddedSigner := none } =
      { v.verifyDecoded so with signer := some (c.filedAs f) } := by
  have hsigner : v.resolveSigner so = .ok c := by rw [resolveSigner, hembedded]
  simp only [verifyDecoded, hresolve, hsigner]
  -- The errors name the signer by its subject, and its key is all that the signature is tried with.
  cases SignatureAlgorithm.ofOid so.signatureAlgorithm so.digestAlgorithm <;> rfl

end Sod.SodVerifier

namespace AuthenticationReport

open Sod

variable {request : AuthenticationRequest} {signature : SodVerification} {signer : Option Certificate}
  {judged judged' : SignerVerdict × Option String} {fits fits' : Prop}

/-- The reports on one document agree but for the role of the signer. -/
theorem passed_of_sameButRole (hverdict : judged.1.SameButRole fits fits' judged'.1)
    (hunjudged : judged.2 = judged'.2) :
    ∃ others : Prop,
      ((ofVerdict request signature judged).passed = true ↔ fits ∧ others) ∧
        ((ofVerdict request { signature with signer := signer } judged').passed = true ↔
          fits' ∧ others) := by
  obtain ⟨others, hvalid, hvalid'⟩ := hverdict.valid
  have hrest : ((ofVerdict request signature judged).withValidity true).passed =
      ((ofVerdict request { signature with signer := signer } judged').withValidity true).passed := by
    simp only [passed, withValidity, ofVerdict, SignerVerdict.isRevoked, hverdict.revocation,
      hunjudged]
    rfl
  refine ⟨others ∧ ((ofVerdict request signature judged).withValidity true).passed = true, ?_, ?_⟩
  · rw [← and_assoc, ← hvalid]
    exact passed_withValidity_iff (ofVerdict request signature judged)
  · rw [← and_assoc, ← hvalid', hrest]
    exact passed_withValidity_iff (ofVerdict request { signature with signer := signer } judged')

end AuthenticationReport

namespace Authenticator

open Sod

variable {a : Authenticator} {octets octets' : Bytes} {so : SecurityObject} {c r : Certificate}
  {f : Filing}

/-- The same document with its signer embedded and with its signer looked up. -/
theorem authenticate_filedAs (now : Timestamp) (request : AuthenticationRequest)
    (hverifier : a.verifier.IgnoresFiling)
    (h : SecurityObject.decode octets = .ok so)
    (h' : SecurityObject.decode octets' = .ok { so with embeddedSigner := none })
    (hembedded : so.embeddedSigner = some c)
    (hresolve : a.sodVerifier.resolveSigner { so with embeddedSigner := none } =
      .ok (c.filedAs f)) :
    Alike (fun report report' : AuthenticationReport => report.error = report'.error ∧
        ∃ others : Prop, (report.passed = true ↔ c.FitsRole ∧ others) ∧
          (report'.passed = true ↔ (c.filedAs f).FitsRole ∧ others))
      (a.authenticate now { request with sod := octets })
      (a.authenticate now { request with sod := octets' }) := by
  have hsigner : (a.sodVerifier.verifyDecoded so).signer = some c := by
    simp [SodVerifier.verifyDecoded, SodVerifier.resolveSigner, hembedded, Except.toOption]
  rw [authenticate_of_decoded h, authenticate_of_decoded h',
    SodVerifier.verifyDecoded_filedAs hembedded hresolve]
  refine conclude_alike rfl
    (R := fun judged judged' => SignerVerdict.SameButRole c.FitsRole (c.filedAs f).FitsRole
      judged.1 judged'.1 ∧ judged.2 = judged'.2) ?_ ?_
  · rw [hsigner]
    exact signerVerdict_filedAs hverifier
  · rintro judged judged' ⟨hsame, hunjudged⟩
    refine ⟨?_, AuthenticationReport.passed_of_sameButRole hsame hunjudged⟩
    exact congrArg (Option.or _) hunjudged

/-- A document passes with its signer embedded exactly if it passes with the signer looked up, where
the extensions of the signer fit the role of a document signer and the role it is stored under
alike, as they do for document signers and master list signers. Otherwise it passes in at most one
way, and then nothing but the role is what fails it in the other. -/
theorem authenticate_of_stored (now : Timestamp) (request : AuthenticationRequest)
    {issuer serial : String} (hverifier : a.verifier.IgnoresFiling)
    (hallowed : a.policy.requireEmbeddedSigner = false)
    (h : SecurityObject.decode octets = .ok so)
    (h' : SecurityObject.decode octets' = .ok { so with embeddedSigner := none })
    (hembedded : so.embeddedSigner = some c)
    (hid : so.signerId = .issuerAndSerial issuer serial)
    (hstored : a.certificates.findBySerialAndIssuer serial issuer = .ok (some r))
    (hread : r.IsRead) (hder : r.der = c.der) :
    (∃ e, a.authenticate now { request with sod := octets } = .error e ∧
        a.authenticate now { request with sod := octets' } = .error e) ∨
      ∃ report report',
        a.authenticate now { request with sod := octets } = .ok report ∧
        a.authenticate now { request with sod := octets' } = .ok report' ∧
        report.error = report'.error ∧
        (r.type = .dsc ∨ r.type = .mlsc ∨ (c.FitsRole ↔ r.FitsRole) →
          report.status = report'.status ∧ report.passed = report'.passed) ∧
        (report.passed = true → (report'.passed = true ↔ r.FitsRole)) ∧
        (report'.passed = true → (report.passed = true ↔ c.FitsRole)) := by
  obtain ⟨_, _, _, _, der, _, hof⟩ := SecurityObject.decode_embeddedSigner h hembedded
  obtain ⟨htype, rfl, _⟩ := Certificate.ofDer_record hof
  have hrecord := Certificate.eq_filedAs_of_isRead hof hread hder
  have hresolve : a.sodVerifier.resolveSigner { so with embeddedSigner := none } =
      .ok (c.filedAs ⟨r.type, r.uploadId, r.storedInLdap⟩) := by
    rw [← hrecord]
    exact SodVerifier.resolveSigner_eq_ok_iff.2 (.inr ⟨rfl, hallowed, issuer, serial, hid, hstored⟩)
  have halike := authenticate_filedAs now request hverifier h h' hembedded hresolve
  rw [← hrecord] at halike
  rcases halike.cases with herror | ⟨report, report', hreport, hreport', herror, others, hpassed,
    hpassed'⟩
  · exact .inl herror
  · refine .inr ⟨report, report', hreport, hreport', herror, ?_, ?_, ?_⟩
    · intro hrole
      have hfits : c.FitsRole ↔ r.FitsRole := by
        rcases hrole with hdsc | hmlsc | hfits
        · rw [hrecord]
          exact (Certificate.fitsRole_filedAs_iff htype (.inl hdsc)).symm
        · rw [hrecord]
          exact (Certificate.fitsRole_filedAs_iff htype (.inr hmlsc)).symm
        · exact hfits
      have hsame : report.passed = report'.passed := by
        rw [Bool.eq_iff_iff, hpassed, hpassed', hfits]
      rw [AuthenticationReport.status, AuthenticationReport.status, herror, hsame]
      exact ⟨rfl, rfl⟩
    · intro hpasses
      exact ⟨fun hpasses' => (hpassed'.1 hpasses').1,
        fun hfits => hpassed'.2 ⟨hfits, (hpassed.1 hpasses).2⟩⟩
    · intro hpasses'
      exact ⟨fun hpasses => (hpassed.1 hpasses).1,
        fun hfits => hpassed.2 ⟨hfits, (hpassed'.1 hpasses').2⟩⟩

end Authenticator

namespace Specimen

open Der Cms Sod SecurityObject

/-- The document whose signer is embedded, without it. -/
def bareRequest : AuthenticationRequest :=
  { embeddingRequest with
    sod := (ContentInfo.element
      ⟨signedDataOid, { embeddingData with certificates := none }.element⟩).encode }

/-- Knows the signer under a role, and the root. -/
def filingAuthenticator (type : CertificateType) : Authenticator :=
  ⟨(CertificateStore.ofList
      ((Certificate.ofDer type encodedSigner.encode).toOption.toList ++ [root])).repository,
    RevocationListStore.empty.repository, sharedKeyVerifier, {}⟩

theorem sharedKeyVerifier_ignoresFiling : sharedKeyVerifier.IgnoresFiling :=
  fun _ _ _ => ⟨rfl, rfl⟩

/-- What is stored under a role is what was encoded for the signer. -/
theorem filingAuthenticator_finds {type : CertificateType} (hsigner : type.isAuthority = false) :
    ∃ r, (filingAuthenticator type).certificates.findBySerialAndIssuer "51" "CN=Root" =
        .ok (some r) ∧
      r.IsRead ∧ r.der = encodedSigner.encode ∧ r.type = type := by
  have hall : ((filingAuthenticator type).certificates.findBySerialAndIssuer "51"
      "CN=Root").toOption.any (fun found => found.any fun r =>
        decide ((Certificate.ofDer r.type r.der).toOption =
            some { r with uploadId := none, storedInLdap := false } ∧
          r.der = encodedSigner.encode ∧ r.type = type)) = true := by
    cases type with
    | csca => cases hsigner
    | dsc | mlsc | dscNc => decide +kernel
  obtain ⟨found, hfound, hall⟩ := (Option.any_eq_true ..).1 hall
  obtain ⟨r, rfl, hchecks⟩ := (Option.any_eq_true ..).1 hall
  obtain ⟨hread, hder, htype⟩ := of_decide_eq_true hchecks
  exact ⟨r, toOption_eq_some_iff.1 hfound, toOption_eq_some_iff.1 hread, hder, htype⟩

/-- The two documents differ in the certificate of the signer alone. -/
theorem bareRequest_decoded :
    ∃ so c, decode embeddingRequest.sod = .ok so ∧
      decode bareRequest.sod = .ok { so with embeddedSigner := none } ∧
      so.embeddedSigner = some c ∧ so.signerId = .issuerAndSerial "CN=Root" "51" ∧
      c.der = encodedSigner.encode := by
  have hall : (decode embeddingRequest.sod).toOption.any (fun so =>
      so.embeddedSigner.any fun c =>
        decide ((decode bareRequest.sod).toOption = some { so with embeddedSigner := none } ∧
          so.signerId = .issuerAndSerial "CN=Root" "51" ∧ c.der = encodedSigner.encode)) =
      true := by
    decide +kernel
  obtain ⟨so, hso, hall⟩ := (Option.any_eq_true ..).1 hall
  obtain ⟨c, hc, hchecks⟩ := (Option.any_eq_true ..).1 hall
  obtain ⟨hbare, hid, hder⟩ := of_decide_eq_true hchecks
  exact ⟨so, c, toOption_eq_some_iff.1 hso, toOption_eq_some_iff.1 hbare, hc, hid, hder⟩

/-- What is stored under a role is what is embedded. -/
theorem bareRequest_stored {type : CertificateType} (hsigner : type.isAuthority = false) :
    ∃ so c r, decode embeddingRequest.sod = .ok so ∧
      decode bareRequest.sod = .ok { so with embeddedSigner := none } ∧
      so.embeddedSigner = some c ∧ so.signerId = .issuerAndSerial "CN=Root" "51" ∧
      (filingAuthenticator type).certificates.findBySerialAndIssuer "51" "CN=Root" =
        .ok (some r) ∧
      r.IsRead ∧ r.der = c.der ∧ r.type = type := by
  obtain ⟨so, c, h, h', hembedded, hid, hencoded⟩ := bareRequest_decoded
  obtain ⟨r, hstored, hread, hder, htype⟩ := filingAuthenticator_finds hsigner
  exact ⟨so, c, r, h, h', hembedded, hid, hstored, hread, hder.trans hencoded.symm, htype⟩

/-- The signer has no Key Usage, which is asked of an embedded signer. -/
theorem embeddingRequest_invalid {type : CertificateType} (hsigner : type.isAuthority = false) :
    ∃ report, (filingAuthenticator type).authenticate 50 embeddingRequest = .ok report ∧
      report.status = .invalid ∧ report.passed = false := by
  have hfails : ((filingAuthenticator type).authenticate 50 embeddingRequest).toOption.any
      (fun report => decide (report.status = .invalid ∧ report.passed = false)) = true := by
    cases type with
    | csca => cases hsigner
    | dsc | mlsc | dscNc => decide +kernel
  obtain ⟨report, hreport, hinvalid⟩ := (Option.any_eq_true ..).1 hfails
  exact ⟨report, toOption_eq_some_iff.1 hreport, of_decide_eq_true hinvalid⟩

/-- Of a signer that is stored outside the profile no Key Usage is asked. -/
theorem bareRequest_valid :
    ∃ report, (filingAuthenticator .dscNc).authenticate 50 bareRequest = .ok report ∧
      report.status = .valid ∧ report.passed = true := by
  have hpasses : ((filingAuthenticator .dscNc).authenticate 50 bareRequest).toOption.any
      (fun report => decide (report.status = .valid ∧ report.passed = true)) = true := by
    decide +kernel
  obtain ⟨report, hreport, hvalid⟩ := (Option.any_eq_true ..).1 hpasses
  exact ⟨report, toOption_eq_some_iff.1 hreport, of_decide_eq_true hvalid⟩

theorem bareRequest_agrees :
    (∃ so c r report report', decode embeddingRequest.sod = .ok so ∧
      so.embeddedSigner = some c ∧
      (filingAuthenticator .dscNc).certificates.findBySerialAndIssuer "51" "CN=Root" =
        .ok (some r) ∧
      r.type = .dscNc ∧ r.der = c.der ∧
      (filingAuthenticator .dscNc).authenticate 50 embeddingRequest = .ok report ∧
      (filingAuthenticator .dscNc).authenticate 50 bareRequest = .ok report' ∧
      report.error = report'.error ∧ report'.passed = true ∧
      (report.passed = true ↔ c.FitsRole)) ∧
    ∀ type, type = .dsc ∨ type = .mlsc → ∃ so c r report report',
      decode embeddingRequest.sod = .ok so ∧ so.embeddedSigner = some c ∧
      (filingAuthenticator type).certificates.findBySerialAndIssuer "51" "CN=Root" =
        .ok (some r) ∧
      r.type = type ∧ r.der = c.der ∧
      (filingAuthenticator type).authenticate 50 embeddingRequest = .ok report ∧
      (filingAuthenticator type).authenticate 50 bareRequest = .ok report' ∧
      report.error = report'.error ∧ report.status = .invalid ∧
      report.status = report'.status ∧ report.passed = report'.passed := by
  constructor
  · have hsigner : CertificateType.dscNc.isAuthority = false := rfl
    obtain ⟨so, c, r, h, h', hembedded, hid, hstored, hread, hder, htype⟩ :=
      bareRequest_stored hsigner
    obtain ⟨passing, hbare, _, hpassed⟩ := bareRequest_valid
    rcases Authenticator.authenticate_of_stored 50 embeddingRequest sharedKeyVerifier_ignoresFiling
        rfl h h' hembedded hid hstored hread hder with
      ⟨e, _, hfails⟩ | ⟨report, report', hreport, hreport', herror, _, _, hrole⟩
    · cases hbare.symm.trans hfails
    · obtain rfl := Except.ok.inj (hbare.symm.trans hreport')
      exact ⟨so, c, r, report, passing, h, hembedded, hstored, htype, hder, hreport, hbare, herror,
        hpassed, hrole hpassed⟩
  · intro type hprofile
    have hsigner : type.isAuthority = false := by rcases hprofile with rfl | rfl <;> rfl
    obtain ⟨so, c, r, h, h', hembedded, hid, hstored, hread, hder, htype⟩ :=
      bareRequest_stored hsigner
    obtain ⟨failing, hfailing, hinvalid, _⟩ := embeddingRequest_invalid hsigner
    rcases Authenticator.authenticate_of_stored 50 embeddingRequest sharedKeyVerifier_ignoresFiling
        rfl h h' hembedded hid hstored hread hder with
      ⟨e, hfails, _⟩ | ⟨report, report', hreport, hreport', herror, hagree, _, _⟩
    · cases hfailing.symm.trans hfails
    · obtain rfl := Except.ok.inj (hfailing.symm.trans hreport)
      have hrole : r.type = .dsc ∨ r.type = .mlsc ∨ (c.FitsRole ↔ r.FitsRole) := by
        rw [htype]
        exact hprofile.imp_right .inl
      obtain ⟨hstatus, hpassed⟩ := hagree hrole
      exact ⟨so, c, r, failing, report', h, hembedded, hstored, htype, hder, hreport, hreport',
        herror, hinvalid, hstatus, hpassed⟩

/-- Its signer has no Key Usage, which is asked of an embedded signer and not of one that is stored
outside the profile. -/
theorem bareRequest_disagrees :
    ∃ so c r report report', decode embeddingRequest.sod = .ok so ∧
      decode bareRequest.sod = .ok { so with embeddedSigner := none } ∧
      so.embeddedSigner = some c ∧ so.signerId = .issuerAndSerial "CN=Root" "51" ∧
      (filingAuthenticator .dscNc).certificates.findBySerialAndIssuer "51" "CN=Root" =
        .ok (some r) ∧
      r.IsRead ∧ r.der = c.der ∧
      (filingAuthenticator .dscNc).policy.requireEmbeddedSigner = false ∧
      (filingAuthenticator .dscNc).authenticate 50 embeddingRequest = .ok report ∧
      (filingAuthenticator .dscNc).authenticate 50 bareRequest = .ok report' ∧
      report.status = .invalid ∧ report.passed = false ∧
      report'.status = .valid ∧ report'.passed = true := by
  have hsigner : CertificateType.dscNc.isAuthority = false := rfl
  obtain ⟨so, c, r, h, h', hembedded, hid, hstored, hread, hder, _⟩ := bareRequest_stored hsigner
  obtain ⟨report, hreport, hstatus, hfailed⟩ := embeddingRequest_invalid hsigner
  obtain ⟨report', hreport', hstatus', hpassed⟩ := bareRequest_valid
  exact ⟨so, c, r, report, report', h, h', hembedded, hid, hstored, hread, hder, rfl, hreport,
    hreport', hstatus, hfailed, hstatus', hpassed⟩

end Specimen

end Mrtd
