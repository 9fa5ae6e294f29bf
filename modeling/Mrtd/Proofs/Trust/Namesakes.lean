import Mrtd.Proofs.Trust.Consistency

/-!
Anchors that share the name of the issuer. A validation takes the anchor for the issuer of the
certificate by its name alone, and authorities that succeed one another may have one name. So where
all links of the chain verify, there is a finding on a signature just in case the anchor is a
namesake of the issuer: it bears the name and did not sign.
-/

namespace Mrtd

open IssuerCandidates

/-- An anchor bears the name of the issuer of a certificate, and did not sign it. -/
structure SignatureVerifier.Namesake (verifier : SignatureVerifier) (c a : Certificate) : Prop where
  named : DistinguishedName.same a.subject c.issuer = true
  not_signer : verifier.certificate c a = .ok false

theorem ValidationReport.has_iff {report : ValidationReport} {kind : FindingKind} :
    report.has kind = true ↔ report.findings.filter (·.kind == kind) ≠ [] := by
  rw [has, List.any_eq_true, Ne, List.filter_eq_nil_iff]
  push Not
  rfl

namespace CertificateValidator

variable {v : CertificateValidator} {now : Timestamp} {c : Certificate}
  {anchor direct : Option Certificate} {checkRevocation : Bool} {chain : TrustChain}
  {report : ValidationReport}

/-- The findings on signatures are the ones on the pairs that are checked, in their order. -/
theorem filter_signatureInvalid (h : v.validate now c anchor checkRevocation = .ok report) :
    report.findings.filter (·.kind == .signatureInvalid) =
      v.rejections (checkedPairs c (directAnchor c anchor) report.chain) := by
  obtain ⟨failures, hfiles⟩ := exists_files h
  have hown : (c.ownFindings now).filter (·.kind == .signatureInvalid) = [] := by
    refine List.filter_eq_nil_iff.2 fun f hf => ?_
    rcases Certificate.kind_of_mem_ownFindings hf with hkind | hkind | hkind | hkind <;>
      simp [hkind]
  have hfailures : failures.filter (·.kind == .signatureInvalid) = [] := by
    refine List.filter_eq_nil_iff.2 fun f hf hkind => ?_
    have hchainFailure := hfiles.of_chain f hf
    rw [eq_of_beq hkind] at hchainFailure
    cases hchainFailure
  rw [hfiles.filter_kinds (· == .signatureInvalid), hown, hfailures]
  simp

/-- Along links that all verify, only the direct anchor can be at fault. -/
theorem rejections_checkedPairs
    (hverified : ∀ link ∈ chain.links, v.verifier.certificate link.1 link.2 = .ok true) :
    v.rejections (checkedPairs c direct (some chain)) =
      v.rejections (direct.toList.map (c, ·)) := by
  have hlinks : v.rejections (checkedLinks c direct chain.links) = [] := by
    refine List.eq_nil_iff_forall_not_mem.2 fun f hf => ?_
    obtain ⟨link, hlink, hverdict, _⟩ := mem_rejections_iff.1 hf
    have hverifies := verdict_eq_true_iff.2 (hverified link (List.mem_filter.1 hlink).1)
    rw [hverifies] at hverdict
    cases hverdict
  rw [checkedPairs, rejections_append, Option.elim_some, hlinks, List.append_nil]

/-- A validation that yields a report had an answer on the direct anchor. -/
theorem answer_of_directAnchor {a : Certificate}
    (h : v.validate now c anchor checkRevocation = .ok report) (ha : a ∈ directAnchor c anchor) :
    ∃ verifies, v.verifier.certificate c a = .ok verifies := by
  obtain ⟨_, _, _, _, _, hsignatures, _, _⟩ := validate_cases h
  obtain ⟨first, hfirst, _⟩ := bind_eq_ok_iff.1 hsignatures
  rw [Option.mem_def.1 ha] at hfirst
  obtain ⟨verifies, hanswer, _⟩ := bind_eq_ok_iff.1 hfirst
  exact ⟨verifies, hanswer⟩

theorem namesake_of_verdict {a : Certificate}
    (h : v.validate now c anchor checkRevocation = .ok report) (ha : a ∈ directAnchor c anchor)
    (hverdict : verdict v.verifier c a = false) : a ∈ anchor ∧ v.verifier.Namesake c a := by
  obtain ⟨verifies, hanswer⟩ := answer_of_directAnchor h ha
  obtain ⟨hanchor, hnamed⟩ := Option.filter_eq_some_iff.1 ha
  simp only [verdict, hanswer] at hverdict
  exact ⟨hanchor, hnamed, hverdict ▸ hanswer⟩

/-- Where all links of the chain verify, there is a finding on a signature just in case the anchor
is a namesake of the issuer. It is the only one, and the pair that it is about is not in the
chain. -/
theorem signatureInvalid_iff_namesake
    (h : v.validate now c anchor checkRevocation = .ok report) (hchain : report.chain = some chain)
    (hverified : ∀ link ∈ chain.links, v.verifier.certificate link.1 link.2 = .ok true) :
    (report.has .signatureInvalid = true ↔ ∃ a ∈ anchor, v.verifier.Namesake c a) ∧
      ∀ a ∈ anchor, v.verifier.Namesake c a →
        report.findings.filter (·.kind == .signatureInvalid) = [unverified c a] ∧
          (c, a) ∉ chain.links := by
  have hfilter : report.findings.filter (·.kind == .signatureInvalid) =
      v.rejections ((directAnchor c anchor).toList.map (c, ·)) := by
    rw [filter_signatureInvalid h, hchain, rejections_checkedPairs hverified]
  have honly : ∀ a ∈ anchor, v.verifier.Namesake c a →
      report.findings.filter (·.kind == .signatureInvalid) = [unverified c a] := by
    intro a ha hnamesake
    have hdirect : directAnchor c anchor = some a :=
      Option.filter_eq_some_iff.2 ⟨ha, hnamesake.named⟩
    have hverdict : verdict v.verifier c a = false := by simp only [verdict, hnamesake.not_signer]
    rw [hfilter, hdirect]
    simp [rejections, hverdict]
  refine ⟨⟨fun hhas => ?_, ?_⟩, fun a ha hnamesake => ⟨honly a ha hnamesake, fun hlink => ?_⟩⟩
  · obtain ⟨f, hf⟩ := List.exists_mem_of_ne_nil _ (ValidationReport.has_iff.1 hhas)
    rw [hfilter] at hf
    obtain ⟨pair, hpair, hverdict, _⟩ := mem_rejections_iff.1 hf
    obtain ⟨a, ha, rfl⟩ := List.mem_map.1 hpair
    exact ⟨a, namesake_of_verdict h (Option.mem_toList.1 ha) hverdict⟩
  · rintro ⟨a, ha, hnamesake⟩
    rw [ValidationReport.has_iff, honly a ha hnamesake]
    exact List.cons_ne_nil _ _
  · have hanswer := hverified (c, a) hlink
    rw [hnamesake.not_signer] at hanswer
    cases hanswer

end CertificateValidator

namespace Specimen

/-- The root with a new key, certified by the root under its old one. Both have the same name. -/
def renewed : Certificate := { root with fingerprint := "CN=Root/link" }

/-- A signer that the root issued with its new key. -/
def lateSigner : Certificate := certificate .dsc "CN=Late" "CN=Root"

/-- Accepts the signatures along the chain from the signer by the new key to the old one. -/
def renewalVerifier : SignatureVerifier where
  certificate child parent := .ok <|
    [(lateSigner, renewed), (renewed, root), (root, root)].any fun (c, p) =>
      c.fingerprint == child.fingerprint && p.fingerprint == parent.fingerprint
  content _ _ _ _ := .ok true

def renewalValidator : CertificateValidator :=
  ⟨(CertificateStore.ofList [renewed, root]).repository, RevocationListStore.empty.repository,
    renewalVerifier, {}⟩

def lateReport : ValidationReport where
  findings := [CertificateValidator.unverified lateSigner root]
  chain := some ⟨lateSigner, [renewed, root]⟩
  revocation := none
  validatedAt := 50

/-- The root under its old key is trusted. It bears the name of the signer's issuer, but what it
signed is the new key. -/
theorem lateSigner_signatureInvalid_iff :
    renewalValidator.validate 50 lateSigner (some root) false = .ok lateReport ∧
      (lateReport.has .signatureInvalid = true ↔
        ∃ a ∈ some root, renewalVerifier.Namesake lateSigner a) ∧
      ∀ a ∈ some root, renewalVerifier.Namesake lateSigner a →
        lateReport.findings.filter (·.kind == .signatureInvalid) =
            [CertificateValidator.unverified lateSigner a] ∧
          (lateSigner, a) ∉ TrustChain.links ⟨lateSigner, [renewed, root]⟩ := by
  have hreport : renewalValidator.validate 50 lateSigner (some root) false = .ok lateReport := by
    with_unfolding_all rfl
  refine ⟨hreport, CertificateValidator.signatureInvalid_iff_namesake hreport rfl ?_⟩
  decide

/-- All links of the chain verify, and the report still finds fault with a signature. -/
theorem lateSigner_signatureInvalid :
    renewalValidator.validate 50 lateSigner (some root) false = .ok lateReport ∧
      lateReport.chain = some ⟨lateSigner, [renewed, root]⟩ ∧
      (∀ link ∈ TrustChain.links ⟨lateSigner, [renewed, root]⟩,
        renewalVerifier.certificate link.1 link.2 = .ok true) ∧
      lateReport.has .signatureInvalid = true := by
  refine ⟨?_, rfl, ?_, ?_⟩
  · with_unfolding_all rfl
  · decide
  · decide

end Specimen

end Mrtd
