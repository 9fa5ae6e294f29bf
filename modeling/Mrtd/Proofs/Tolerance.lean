import Mrtd.Proofs.SideBySide
import Mrtd.Proofs.StoreOrder

/-!
What tolerating expired signers relaxes. The flag is read once, where the findings on the signer are
weighed, after all of them are filed; and of all that a validation can file only the finding on the
validity of the certificate itself has the kind that is tolerated. Everything else in the report on a
document is the same under both policies.
-/

namespace Mrtd

namespace Certificate

variable {c : Certificate} {now : Timestamp} {f : Finding}

/-- That it has expired is found of a certificate by its own window only. -/
theorem notAfter_lt_of_mem_ownFindings (h : f ∈ c.ownFindings now) (hkind : f.kind = .expired) :
    c.notAfter < now := by
  rw [ownFindings, List.mem_append, List.mem_append] at h
  rcases h with (hvalidity | hconstraints) | husage
  · rw [Option.mem_toList, validityFinding] at hvalidity
    by_cases hbefore : now < c.notBefore
    · rw [if_pos hbefore] at hvalidity
      obtain rfl := Option.some.inj hvalidity
      cases hkind
    · by_cases hafter : c.notAfter < now
      · exact hafter
      · simp [hbefore, hafter] at hvalidity
  · obtain ⟨fault, _, rfl⟩ := Option.map_eq_some_iff.1 (Option.mem_toList.1 hconstraints)
    cases hkind
  · obtain ⟨fault, _, rfl⟩ := Option.map_eq_some_iff.1 (Option.mem_toList.1 husage)
    cases hkind

end Certificate

namespace CertificateValidator

variable {v : CertificateValidator} {certificates : CertificateRepository}
  {lists : RevocationListRepository} {verifier : SignatureVerifier} {policy : ValidationPolicy}
  {tolerates : Bool} {now : Timestamp} {c : Certificate} {anchor : Option Certificate}
  {checkRevocation : Bool} {report : ValidationReport} {f : Finding}

/-- A validation files everything, whatever is tolerated. -/
theorem validate_tolerating :
    (CertificateValidator.mk certificates lists verifier
        { policy with tolerateExpiredSigner := tolerates }).validate now c anchor checkRevocation =
      (CertificateValidator.mk certificates lists verifier policy).validate now c anchor
        checkRevocation := by
  have hsignatures : ∀ chain,
      (CertificateValidator.mk certificates lists verifier
          { policy with tolerateExpiredSigner := tolerates }).signatureFindings c anchor chain =
        (CertificateValidator.mk certificates lists verifier policy).signatureFindings c anchor
          chain := fun chain => signatureFindings_congr rfl
  simp only [validate, hsignatures]
  rfl

/-- No check but the one of the validity window files that something has expired: not for the chain,
a signature, an issuer or the revocation. -/
theorem notAfter_lt_of_expired (h : v.validate now c anchor checkRevocation = .ok report)
    (hf : f ∈ report.findings) (hkind : f.kind = .expired) : c.notAfter < now := by
  obtain ⟨chain, chainFindings, signatures, revocation, hchain, hsignatures, _, rfl⟩ :=
    validate_cases h
  simp only [List.mem_append] at hf
  rcases hf with (((hown | hchainFinding) | hsignature) | hissuer) | hrevoked
  · exact Certificate.notAfter_lt_of_mem_ownFindings hown hkind
  · have hfailure := kind_of_mem_chainFindings hchain hchainFinding
    rw [hkind] at hfailure
    cases hfailure
  · rw [signatureFindings_eq_rejections hsignatures] at hsignature
    obtain ⟨pair, _, _, rfl⟩ := mem_rejections_iff.1 hsignature
    cases hkind
  · cases chain with
    | none => cases hissuer
    | some chain =>
        rw [kind_of_mem_issuerFindings hissuer] at hkind
        cases hkind
  · cases revocation with
    | none => cases hrevoked
    | some check =>
        rw [kind_of_mem_revocationFindings hrevoked] at hkind
        cases hkind

end CertificateValidator

/-- A verdict on a signer against the one under the policy that tolerates its expiry: only the
validity may differ, from invalid to valid, and only if nothing else than the expiry was found. -/
structure SignerVerdict.Relaxed (now : Timestamp) (strict tolerant : SignerVerdict) : Prop where
  same : tolerant = { strict with valid := tolerant.valid }
  keeps : strict.valid = true → tolerant.valid = true
  relaxes : strict.valid = false → tolerant.valid = true →
    strict.findings ≠ [] ∧ (∀ f ∈ strict.findings, f.kind = .expired) ∧
      ∃ signer ∈ strict.signer, signer.notAfter < now

/-- A signer that was not judged is invalid under both policies. -/
theorem SignerVerdict.relaxed_of_invalid {now : Timestamp} {verdict : SignerVerdict}
    (h : verdict.valid = false) : verdict.Relaxed now verdict := by
  refine ⟨rfl, id, ?_⟩
  intro _ hvalid
  rw [h] at hvalid
  cases hvalid

namespace Authenticator

open Sod

variable {a : Authenticator} {now : Timestamp} {signer : Certificate} {country : String}

/-- The same authenticator, with the expiry of signers tolerated or not. -/
def tolerating (a : Authenticator) (tolerates : Bool) : Authenticator :=
  { a with policy :=
    { a.policy with validation :=
      { a.policy.validation with tolerateExpiredSigner := tolerates } } }

@[simp] theorem isBlocking_tolerating_false {kind : FindingKind} :
    (a.tolerating false).isBlocking kind = true := rfl

@[simp] theorem isBlocking_tolerating_true {kind : FindingKind} :
    (a.tolerating true).isBlocking kind = !(kind == .expired) := rfl

/-- The findings on a signer under both policies. -/
theorem relaxed_of_findings {authority : Option Certificate} {revocation : Option RevocationCheck}
    {findings : List Finding}
    (hexpired : ∀ f ∈ findings, f.kind = .expired → signer.notAfter < now) :
    SignerVerdict.Relaxed now
      ⟨!findings.any fun f => (a.tolerating false).isBlocking f.kind, some signer, authority,
        revocation, findings⟩
      ⟨!findings.any fun f => (a.tolerating true).isBlocking f.kind, some signer, authority,
        revocation, findings⟩ := by
  simp only [isBlocking_tolerating_false, isBlocking_tolerating_true]
  refine ⟨rfl, ?_, ?_⟩
  · intro hvalid
    have hnone : findings = [] := by
      cases findings with
      | nil => rfl
      | cons f rest => simp at hvalid
    simp [hnone]
  · intro hinvalid hvalid
    have hsome : findings ≠ [] := by
      rintro rfl
      simp at hinvalid
    have honly : ∀ f ∈ findings, f.kind = .expired := by simpa using hvalid
    obtain ⟨f, hf⟩ := List.exists_mem_of_ne_nil findings hsome
    exact ⟨hsome, honly, signer, rfl, hexpired f hf (honly f hf)⟩

/-- One examination of the signer is weighed under both policies. -/
theorem judgeSigner_relaxed :
    Alike (SignerVerdict.Relaxed now) ((a.tolerating false).judgeSigner now signer country)
      ((a.tolerating true).judgeSigner now signer country) := by
  have hanchor : (a.tolerating false).resolveAnchor signer country =
      (a.tolerating true).resolveAnchor signer country := rfl
  refine Alike.bind (.of_eq hanchor) ?_
  rintro anchor _ ⟨rfl, _⟩
  have hvalidate : ∀ checkRevocation,
      (a.tolerating false).validator.validate now signer anchor checkRevocation =
        (a.tolerating true).validator.validate now signer anchor checkRevocation := by
    intro checkRevocation
    exact CertificateValidator.validate_tolerating.trans
      CertificateValidator.validate_tolerating.symm
  refine Alike.bind (.of_eq (hvalidate _)) ?_
  rintro report _ ⟨rfl, hreport⟩
  refine .done (relaxed_of_findings ?_)
  intro f hf hkind
  rcases List.mem_append.1 hf with hfound | hmissing
  · exact CertificateValidator.notAfter_lt_of_expired hreport hfound hkind
  · -- A missing anchor is a finding of another kind.
    cases anchor with
    | some anchor => cases hmissing
    | none =>
        rw [List.mem_singleton.1 hmissing] at hkind
        cases hkind

theorem signerVerdict_relaxed {found : Option Certificate} :
    Alike (fun judged judged' => judged.1.Relaxed now judged'.1 ∧ judged.2 = judged'.2)
      ((a.tolerating false).signerVerdict now found country)
      ((a.tolerating true).signerVerdict now found country) := by
  cases found with
  | none => exact .done ⟨SignerVerdict.relaxed_of_invalid rfl, rfl⟩
  | some signer =>
      refine signerVerdict_alike judgeSigner_relaxed ?_ ?_
      · intro verdict verdict' hrelaxed
        exact ⟨hrelaxed, rfl⟩
      · intro text
        exact ⟨SignerVerdict.relaxed_of_invalid rfl, rfl⟩

end Authenticator

namespace AuthenticationReport

variable {now : Timestamp} {report tolerated : AuthenticationReport}

/-- What passes is still passed when the verdict on its signer is relaxed. -/
theorem passed_of_relaxed (hsame : tolerated = report.withValidity tolerated.signer.valid)
    (hrelaxed : report.signer.Relaxed now tolerated.signer) (hpassed : report.passed = true) :
    tolerated.passed = true := by
  rw [← report.withValidity_valid] at hpassed
  obtain ⟨hvalid, hrest⟩ := (passed_withValidity_iff _).1 hpassed
  rw [hsame]
  exact (passed_withValidity_iff _).2 ⟨hrelaxed.keeps hvalid, hrest⟩

/-- What passes only then differs in the validity of the signer. -/
theorem valid_of_passed_only (hsame : tolerated = report.withValidity tolerated.signer.valid)
    (hfailed : report.passed = false) (hpassed : tolerated.passed = true) :
    report.signer.valid = false ∧ tolerated.signer.valid = true := by
  rw [hsame] at hpassed
  obtain ⟨hvalid, hrest⟩ := (passed_withValidity_iff _).1 hpassed
  refine ⟨?_, hvalid⟩
  by_contra hstrict
  rw [Bool.not_eq_false] at hstrict
  have hpasses : (report.withValidity report.signer.valid).passed = true :=
    (passed_withValidity_iff _).2 ⟨hstrict, hrest⟩
  rw [withValidity_valid, hfailed] at hpasses
  cases hpasses

end AuthenticationReport

namespace Authenticator

/-- The two authentications of a document: their reports differ at most in the verdict on the
signer, which is relaxed. -/
theorem authenticate_relaxed (a : Authenticator) (now : Timestamp)
    (request : AuthenticationRequest) :
    Alike (fun report tolerated : AuthenticationReport =>
        tolerated = report.withValidity tolerated.signer.valid ∧
          report.signer.Relaxed now tolerated.signer)
      ((a.tolerating false).authenticate now request)
      ((a.tolerating true).authenticate now request) := by
  have hverifier : (a.tolerating false).sodVerifier = (a.tolerating true).sodVerifier := rfl
  rw [authenticate, authenticate, hverifier]
  refine conclude_alike rfl signerVerdict_relaxed ?_
  rintro ⟨verdict, unjudged⟩ ⟨verdict', _⟩ ⟨hrelaxed, rfl⟩
  refine ⟨?_, hrelaxed⟩
  exact congrArg (fun judged => AuthenticationReport.ofVerdict request _ (judged, unjudged))
    hrelaxed.same

/-- To tolerate the expiry of signers changes no error and, in the report, no field but the validity
of the signer. What passes still does; and what passes only then has a signer that has expired and
of which nothing else was found. -/
theorem authenticate_tolerating (a : Authenticator) (now : Timestamp)
    (request : AuthenticationRequest) :
    (∃ e, (a.tolerating false).authenticate now request = .error e ∧
        (a.tolerating true).authenticate now request = .error e) ∨
      ∃ report tolerated,
        (a.tolerating false).authenticate now request = .ok report ∧
        (a.tolerating true).authenticate now request = .ok tolerated ∧
        tolerated = { report with
          signer := { report.signer with valid := tolerated.signer.valid } } ∧
        (report.passed = true → tolerated.passed = true) ∧
        (report.passed = false → tolerated.passed = true →
          tolerated.signer.findings ≠ [] ∧
            (∀ f ∈ tolerated.signer.findings, f.kind = .expired) ∧
            ∃ signer, tolerated.signer.signer = some signer ∧ signer.notAfter < now) := by
  rcases (a.authenticate_relaxed now request).cases with
    herror | ⟨report, tolerated, hstrict, htolerant, hsame, hrelaxed⟩
  · exact .inl herror
  · refine .inr ⟨report, tolerated, hstrict, htolerant, hsame, ?_, ?_⟩
    · intro hpassed
      exact AuthenticationReport.passed_of_relaxed hsame hrelaxed hpassed
    · intro hfailed hpassed
      obtain ⟨hinvalid, hvalid⟩ := AuthenticationReport.valid_of_passed_only hsame hfailed hpassed
      have hexpired := hrelaxed.relaxes hinvalid hvalid
      -- The signer and the findings are those of the strict report.
      rw [hsame]
      exact hexpired

end Authenticator

namespace Specimen

/-- A document with which nothing is wrong but that its signer has expired. -/
theorem request_tolerating :
    ((authenticator.tolerating false).authenticate 150 request).toOption.any
        (fun report => !report.passed) = true ∧
      ((authenticator.tolerating true).authenticate 150 request).toOption.any (·.passed) = true ∧
      ∃ report tolerated,
        (authenticator.tolerating false).authenticate 150 request = .ok report ∧
        (authenticator.tolerating true).authenticate 150 request = .ok tolerated ∧
        tolerated.signer.findings ≠ [] ∧
        (∀ f ∈ tolerated.signer.findings, f.kind = .expired) ∧
        ∃ signer, tolerated.signer.signer = some signer ∧ signer.notAfter < 150 := by
  have hfails : ((authenticator.tolerating false).authenticate 150 request).toOption.any
      (fun report => !report.passed) = true := by decide +kernel
  have hpasses : ((authenticator.tolerating true).authenticate 150 request).toOption.any
      (·.passed) = true := by decide +kernel
  refine ⟨hfails, hpasses, ?_⟩
  rcases Authenticator.authenticate_tolerating authenticator 150 request with
    ⟨e, hstrict, _⟩ | ⟨report, tolerated, hstrict, htolerant, _, _, honly⟩
  · simp [hstrict, Except.toOption] at hfails
  · have hfailed : report.passed = false := by simpa [hstrict, Except.toOption] using hfails
    have hpassed : tolerated.passed = true := by simpa [htolerant, Except.toOption] using hpasses
    obtain ⟨hsome, hexpired, hsigner⟩ := honly hfailed hpassed
    exact ⟨report, tolerated, hstrict, htolerant, hsome, hexpired, hsigner⟩

end Specimen

end Mrtd
