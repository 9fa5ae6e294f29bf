import Mrtd.Proofs.Trust.Report

/-!
Where chains end that are not led to an anchor. The policy decides who may issue, and only what is
chosen as an issuer is put to it. The certificate at the start is not: if it is self-signed, the
walk ends there before anything is looked up. So where signers may not issue, a valid certificate is
its own root, or its root is a country signing authority that the store holds.
-/

namespace Mrtd

namespace TrustChain

variable {chain : TrustChain}

theorem anchor_of_issuers_nil (h : chain.issuers = []) : chain.anchor = chain.endEntity := by
  rw [anchor, h]
  rfl

theorem anchor_mem_issuers (h : chain.issuers ≠ []) : chain.anchor ∈ chain.issuers := by
  have hlast : chain.issuers.getLast? = some (chain.issuers.getLast h) :=
    List.getLast?_eq_some_getLast h
  rw [anchor, List.getLastD_eq_getLast?, hlast]
  exact List.getLast_mem h

/-- The first certificate is the last one only if nobody issued it. -/
theorem endEntity_mem_dropLast (h : chain.issuers ≠ []) :
    chain.endEntity ∈ chain.certificates.dropLast := by
  rw [certificates, List.dropLast_cons_of_ne_nil h]
  exact List.mem_cons_self

namespace Leads

variable {s : CertificateStore} {verifier : SignatureVerifier} {policy : CrossCertificationPolicy}
  {c : Certificate} {maxDepth : Nat}

/-- Without an anchor to reach, a chain has no issuers exactly if it starts at a root. -/
theorem issuers_eq_nil_iff (h : chain.Leads s verifier policy c none maxDepth) :
    chain.issuers = [] ↔ c.isSelfIssued = true ∧ verifier.certificate c c = .ok true := by
  rw [← h.endEntity_eq]
  constructor
  · intro hnil
    rw [← anchor_of_issuers_nil hnil]
    exact h.reaches_root rfl
  · rintro ⟨hself, hverifies⟩
    apply Classical.byContradiction
    intro hissued
    have hfails := (h.no_earlier_end _ (endEntity_mem_dropLast hissued)).2 hself
    cases hverifies.symm.trans hfails

theorem issuer_csca (h : chain.Leads s verifier policy c none maxDepth)
    (hdsc : policy.allowDscIssuers = false) (hmlsc : policy.allowMlscIssuers = false) :
    ∀ issuer ∈ chain.issuers, issuer ∈ s.certificates ∧ issuer.type = .csca := by
  intro issuer hissuer
  rcases h.issuing issuer hissuer with ⟨hheld, hrole⟩ | hanchor
  · refine ⟨hheld, ?_⟩
    rcases hrole with hcsca | ⟨_, hallowed⟩ | ⟨_, hallowed⟩
    · exact hcsca
    · cases hdsc.symm.trans hallowed
    · cases hmlsc.symm.trans hallowed
  · cases hanchor

end Leads

end TrustChain

namespace CertificateValidator

/-- Where signers may not issue, the chain of a certificate that is found valid without an anchor
ends at an authority of the store, unless the certificate is self-signed: then it is the whole
chain. -/
theorem validate_root {s : CertificateStore} {lists : RevocationListRepository}
    {verifier : SignatureVerifier} {policy : ValidationPolicy} {now : Timestamp} {c : Certificate}
    {checkRevocation : Bool} {report : ValidationReport}
    (hdsc : policy.crossCertification.allowDscIssuers = false)
    (hmlsc : policy.crossCertification.allowMlscIssuers = false)
    (h : (CertificateValidator.mk s.repository lists verifier policy).validate now c none
      checkRevocation = .ok report)
    (hempty : report.findings = []) :
    ∃ chain, report.chain = some chain ∧
      (c.isSelfIssued = true ∧ verifier.certificate c c = .ok true → chain.certificates = [c]) ∧
      (¬(c.isSelfIssued = true ∧ verifier.certificate c c = .ok true) →
        chain.anchor ∈ s.certificates ∧ chain.anchor.type = .csca) := by
  obtain ⟨chain, hchain, hvouches⟩ :=
    vouches_of_validate rfl (by simp) h (by simp [Finding.OnlyExpired, hempty])
  have hleads := hvouches.leads
  refine ⟨chain, hchain, ?_, ?_⟩
  · intro hroot
    rw [TrustChain.certificates, hleads.issuers_eq_nil_iff.2 hroot, hleads.endEntity_eq]
  · intro hroot
    have hissued : chain.issuers ≠ [] := mt hleads.issuers_eq_nil_iff.1 hroot
    exact hleads.issuer_csca hdsc hmlsc _ (TrustChain.anchor_mem_issuers hissued)

end CertificateValidator

namespace Specimen

theorem signer_root :
    validator.validate 50 signer none true =
        .ok ⟨[], some ⟨signer, [successor, root]⟩, some (.ofList signer 50 list .issuer), 50⟩ ∧
      ∃ chain : TrustChain, some ⟨signer, [successor, root]⟩ = some chain ∧
        (signer.isSelfIssued = true ∧ verifier.certificate signer signer = .ok true →
          chain.certificates = [signer]) ∧
        (¬(signer.isSelfIssued = true ∧ verifier.certificate signer signer = .ok true) →
          chain.anchor ∈ store.certificates ∧ chain.anchor.type = .csca) := by
  have hreport : validator.validate 50 signer none true =
      .ok ⟨[], some ⟨signer, [successor, root]⟩, some (.ofList signer 50 list .issuer), 50⟩ := by
    with_unfolding_all rfl
  exact ⟨hreport, CertificateValidator.validate_root rfl rfl hreport rfl⟩

/-- A document signer that nobody but itself certified. -/
def selfMade : Certificate := certificate .dsc "CN=Maker" "CN=Maker"

/-- Accepts what certificates sign for themselves. -/
def ownKeyVerifier : SignatureVerifier where
  certificate child parent := .ok (child.fingerprint == parent.fingerprint)
  content _ _ _ _ := .ok true

/-- Over a store that holds nothing, a document signer is found valid with nothing above it. -/
theorem selfMade_without_csca :
    selfMade.type = .dsc ∧
      ∃ report, (CertificateValidator.mk CertificateStore.empty.repository
          RevocationListStore.empty.repository ownKeyVerifier {}).validate 50 selfMade none true =
            .ok report ∧
        report.findings = [] ∧
        ¬∃ chain, report.chain = some chain ∧
          chain.anchor ∈ CertificateStore.empty.certificates ∧ chain.anchor.type = .csca := by
  refine ⟨rfl, ⟨[], some ⟨selfMade, []⟩, some .notChecked, 50⟩, by with_unfolding_all rfl, rfl, ?_⟩
  rintro ⟨chain, _, hheld, _⟩
  cases hheld

end Specimen

end Mrtd
