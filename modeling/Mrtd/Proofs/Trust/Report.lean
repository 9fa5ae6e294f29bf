import Mrtd.Proofs.Trust.SignatureFindings
import Mrtd.Proofs.Trust.Walk

/-!
What a report vouches for. Every check of a validation files findings of kinds of its own, so the
kinds that a report lacks tell which checks were passed. A report that finds at most that the
certificate has expired vouches for its role, its chain, the signatures along the chain and, where
that was asked, that it is not revoked.
-/

namespace Mrtd

namespace SignatureVerifier

/-- Among the certificates that are known, verdicts depend on the fingerprints alone. -/
def JudgesByFingerprint (verifier : SignatureVerifier) (known : Certificate → Prop) : Prop :=
  ∀ child child' parent parent', known child → known child' → known parent → known parent' →
    child.fingerprint = child'.fingerprint → parent.fingerprint = parent'.fingerprint →
      verifier.certificate child parent = verifier.certificate child' parent'

/-- The verifier that evaluates signatures looks at the encoding of the child and at the key of the
parent only. -/
theorem standard_judgesByFingerprint {known : Certificate → Prop}
    (h : ∀ c c', known c → known c' → c.fingerprint = c'.fingerprint →
      c.der = c'.der ∧ c.publicKey = c'.publicKey) : standard.JudgesByFingerprint known := by
  intro child child' parent parent' hchild hchild' hparent hparent' heq heq'
  obtain ⟨hder, _⟩ := h child child' hchild hchild' heq
  obtain ⟨_, hkey⟩ := h parent parent' hparent hparent' heq'
  simp only [standard, verifyCertificate, verifyPss, hder, hkey]

end SignatureVerifier

namespace Finding

/-- The findings, if there are any, say only that something has expired. -/
def OnlyExpired (findings : List Finding) : Prop :=
  ∀ f ∈ findings, f.kind = .expired

theorem onlyExpired_append {fs gs : List Finding} :
    OnlyExpired (fs ++ gs) ↔ OnlyExpired fs ∧ OnlyExpired gs :=
  List.forall_mem_append

end Finding

open Finding

namespace Certificate

variable {c : Certificate} {now : Timestamp}

/-- The Basic Constraints and the Key Usage are those of the role. -/
def FitsRole (c : Certificate) : Prop :=
  match c.type with
  | .csca => c.assertsCa = true ∧
      ∃ usage ∈ c.keyUsage, usage.keyCertSign = true ∧ usage.crlSign = true
  | .dsc | .mlsc => c.assertsCa = false ∧ ∃ usage ∈ c.keyUsage, usage.digitalSignature = true
  | .dscNc => c.assertsCa = false

theorem basicConstraintsFault_eq_none_iff :
    c.basicConstraintsFault = none ↔ c.assertsCa = c.type.isAuthority := by
  unfold basicConstraintsFault assertsCa
  cases c.type.isAuthority <;> rcases c.basicConstraints with _ | ⟨_ | _, _⟩ <;> simp

/-- Nothing is wrong with the extensions exactly if they fit the role. -/
theorem fitsRole_iff :
    c.FitsRole ↔ c.basicConstraintsFault = none ∧ c.keyUsageFault = none := by
  rw [basicConstraintsFault_eq_none_iff]
  unfold FitsRole keyUsageFault
  cases c.type <;> cases c.keyUsage <;> simp [CertificateType.isAuthority]

theorem validityFinding_eq_none_iff :
    c.validityFinding now = none ↔ c.notBefore ≤ now ∧ now ≤ c.notAfter := by
  unfold validityFinding
  by_cases hbefore : now < c.notBefore
  · simp [hbefore, Int.not_le.2 hbefore]
  · by_cases hafter : c.notAfter < now
    · simp [hbefore, hafter, Int.not_le.2 hafter]
    · simp [hbefore, hafter, Int.not_lt.1 hbefore, Int.not_lt.1 hafter]

/-- Before the window begins the finding is not that the certificate has expired. -/
theorem notBefore_le_of_validityFinding (h : OnlyExpired (c.validityFinding now).toList) :
    c.notBefore ≤ now := by
  apply Int.not_lt.1
  intro hbefore
  have hfiled : c.validityFinding now =
      some (.about c .notYetValid ("not valid before " ++ c.notBefore.withOffset)) := if_pos hbefore
  have hkind := h _ (Option.mem_toList.2 hfiled)
  cases hkind

theorem basicConstraintsFault_of_finding (h : OnlyExpired c.basicConstraintsFinding.toList) :
    c.basicConstraintsFault = none := by
  apply Option.eq_none_iff_forall_not_mem.2
  intro fault hfault
  have hkind := h _ (Option.mem_toList.2 (Option.mem_map_of_mem _ hfault))
  cases hkind

theorem keyUsageFault_of_finding (h : OnlyExpired c.keyUsageFinding.toList) :
    c.keyUsageFault = none := by
  apply Option.eq_none_iff_forall_not_mem.2
  intro fault hfault
  have hkind := h _ (Option.mem_toList.2 (Option.mem_map_of_mem _ hfault))
  cases hkind

theorem fitsRole_of_ownFindings (h : OnlyExpired (c.ownFindings now)) :
    c.notBefore ≤ now ∧ c.FitsRole := by
  rw [ownFindings, onlyExpired_append, onlyExpired_append] at h
  obtain ⟨⟨hvalidity, hconstraints⟩, husage⟩ := h
  have hfaults := And.intro (basicConstraintsFault_of_finding hconstraints)
    (keyUsageFault_of_finding husage)
  exact ⟨notBefore_le_of_validityFinding hvalidity, fitsRole_iff.2 hfaults⟩

theorem kind_of_mem_ownFindings {f : Finding} (h : f ∈ c.ownFindings now) :
    f.kind = .notYetValid ∨ f.kind = .expired ∨ f.kind = .basicConstraintsMismatch ∨
      f.kind = .keyUsageMismatch := by
  rw [ownFindings, List.mem_append, List.mem_append] at h
  rcases h with (hvalidity | hconstraints) | husage
  · rw [Option.mem_toList, validityFinding] at hvalidity
    split at hvalidity
    · obtain rfl := Option.some.inj hvalidity
      exact .inl rfl
    · split at hvalidity
      · obtain rfl := Option.some.inj hvalidity
        exact .inr (.inl rfl)
      · cases hvalidity
  · obtain ⟨fault, _, rfl⟩ := Option.map_eq_some_iff.1 (Option.mem_toList.1 hconstraints)
    exact .inr (.inr (.inl rfl))
  · obtain ⟨fault, _, rfl⟩ := Option.map_eq_some_iff.1 (Option.mem_toList.1 husage)
    exact .inr (.inr (.inr rfl))

end Certificate

namespace ChainBuilder

variable {b : ChainBuilder} {c : Certificate} {anchor : Option Certificate} {maxDepth left : Nat}
  {path : List String} {current : Certificate} {finding : Finding}

theorem atEnd_eq_invalid (h : b.atEnd c anchor current = .error (.invalid finding)) :
    ∃ a, finding = wrongRoot c current a := by
  unfold atEnd at h
  split at h
  · cases h
  · split at h
    · cases h
    · rename_i a _ _
      exact ⟨a, (ChainFailure.invalid.inj (Except.error.inj h)).symm⟩
    · cases h

theorem next_eq_invalid (h : b.next c anchor path current = .error (.invalid finding)) :
    finding = broken c current := by
  rcases bind_eq_error_iff.1 h with hcandidates | ⟨cs, _, hselect⟩
  · obtain ⟨e, _, he⟩ := mapError_eq_error_iff.1 hcandidates
    cases he
  · split at hselect
    · cases hselect
    · exact (ChainFailure.invalid.inj (Except.error.inj hselect)).symm

/-- A walk that fails says so by one of the kinds that mean that there is no chain. -/
theorem walk_eq_invalid
    (h : b.walk c anchor maxDepth left path current = .error (.invalid finding)) :
    finding.kind.isChainFailure = true := by
  induction left generalizing path current with
  | zero =>
      rcases bind_eq_error_iff.1 h with hatEnd | ⟨ends, _, hrest⟩
      · obtain ⟨a, rfl⟩ := atEnd_eq_invalid hatEnd
        rfl
      · cases ends with
        | true => cases hrest
        | false =>
            obtain rfl := ChainFailure.invalid.inj (Except.error.inj hrest)
            rfl
  | succ left ih =>
      rcases bind_eq_error_iff.1 h with hatEnd | ⟨ends, _, hrest⟩
      · obtain ⟨a, rfl⟩ := atEnd_eq_invalid hatEnd
        rfl
      · cases ends with
        | true => cases hrest
        | false =>
            rcases bind_eq_error_iff.1 hrest with hnext | ⟨issuer, _, hrest⟩
            · obtain rfl := next_eq_invalid hnext
              rfl
            · rcases bind_eq_error_iff.1 hrest with habove | ⟨issuers, _, hpure⟩
              · exact ih habove
              · cases hpure

theorem build_eq_invalid (h : b.build c anchor maxDepth = .error (.invalid finding)) :
    finding.kind.isChainFailure = true :=
  walk_eq_invalid (map_eq_error_iff.1 h)

end ChainBuilder

namespace RevocationChecker

variable {r : RevocationChecker} {c : Certificate} {now : Timestamp} {check : RevocationCheck}

/-- A check that does not find the certificate revoked has looked for the list that applies, and the
list, if there is one, has no entry under the serial number. -/
theorem not_listed_of_check (h : r.check c now = .ok check) (hrevoked : check.revoked = false) :
    ∃ found, r.find c = .ok found ∧
      ∀ crl source, found = some (crl, source) →
        SerialNumber.normalize c.serial ∉ crl.entries.map Prod.fst := by
  obtain ⟨found, hfind, hcheck⟩ := bind_eq_ok_iff.1 h
  refine ⟨found, hfind, ?_⟩
  rintro crl source rfl
  obtain rfl := Except.ok.inj hcheck
  have hentry : crl.findEntry? c.serial = none := by simpa [RevocationCheck.ofList] using hrevoked
  exact OrderedTable.find?_eq_none_iff.1 hentry

end RevocationChecker

namespace CertificateValidator

variable {v : CertificateValidator} {now : Timestamp} {c : Certificate}
  {anchor : Option Certificate} {checkRevocation : Bool} {chain : TrustChain}
  {report : ValidationReport} {findings : List Finding} {f : Finding}

theorem verified_of_checkedPairs {chain : Option TrustChain}
    (h : v.signatureFindings c anchor chain = .ok findings) (honly : OnlyExpired findings) :
    ∀ pair ∈ checkedPairs c (directAnchor c anchor) chain,
      v.verifier.certificate pair.1 pair.2 = .ok true := by
  intro pair hpair
  apply IssuerCandidates.verdict_eq_true_iff.1
  cases hverdict : IssuerCandidates.verdict v.verifier pair.1 pair.2 with
  | true => rfl
  | false =>
      rw [signatureFindings_eq_rejections h] at honly
      have hkind := honly _ (mem_rejections_iff.2 ⟨pair, hpair, hverdict, rfl⟩)
      cases hkind

/-- The direct anchor verifies the certificate; the links verify but for the one to it. -/
theorem verified_of_signatureFindings
    (h : v.signatureFindings c anchor (some chain) = .ok findings)
    (honly : OnlyExpired findings) :
    (∀ a ∈ directAnchor c anchor, v.verifier.certificate c a = .ok true) ∧
      ∀ link ∈ chain.links, v.verifier.certificate link.1 link.2 = .ok true ∨
        link.1.fingerprint = c.fingerprint ∧
          ∃ a ∈ directAnchor c anchor, a.fingerprint = link.2.fingerprint := by
  have hchecked := verified_of_checkedPairs h honly
  constructor
  · intro a ha
    exact hchecked (c, a) (mem_checkedPairs_iff.2 (.inl ⟨ha, rfl⟩))
  · intro link hlink
    by_cases hpassed : link.1.fingerprint = c.fingerprint ∧
        ∃ a ∈ directAnchor c anchor, a.fingerprint = link.2.fingerprint
    · exact .inr hpassed
    · exact .inl (hchecked link (mem_checkedPairs_iff.2 (.inr ⟨hlink, hpassed⟩)))

theorem assertsCa_of_issuerFindings (honly : OnlyExpired (issuerFindings chain)) :
    ∀ issuer ∈ chain.issuers, issuer.assertsCa = true := by
  intro issuer hissuer
  rw [← chain.map_snd_links] at hissuer
  obtain ⟨link, hlink, rfl⟩ := List.mem_map.1 hissuer
  cases hca : link.2.assertsCa with
  | true => rfl
  | false =>
      have hfiled : .about link.2 .basicConstraintsMismatch
          ("issuer of '" ++ link.1.subject ++ "' does not assert cA") ∈ issuerFindings chain :=
        List.mem_map.2 ⟨link, List.mem_filter.2 ⟨hlink, by simp [hca]⟩, rfl⟩
      have hkind := honly _ hfiled
      cases hkind

theorem revoked_eq_false_of_revocationFindings {check : RevocationCheck}
    (honly : OnlyExpired (revocationFindings c check)) : check.revoked = false := by
  unfold revocationFindings at honly
  split at honly
  · have hkind := honly _ List.mem_cons_self
    cases hkind
  · exact eq_false_of_ne_true ‹_›

theorem validate_cases (h : v.validate now c anchor checkRevocation = .ok report) :
    ∃ chain chainFindings signatures revocation,
      v.chainOrFinding c anchor = .ok (chain, chainFindings) ∧
      v.signatureFindings c anchor chain = .ok signatures ∧
      v.checkIfAsked now c chain checkRevocation = .ok revocation ∧
      report = {
        findings := c.ownFindings now ++ chainFindings ++ signatures ++
          chain.elim [] issuerFindings ++ revocation.elim [] (revocationFindings c)
        chain := chain
        revocation := revocation
        validatedAt := now } := by
  obtain ⟨⟨chain, chainFindings⟩, hchain, h⟩ := bind_eq_ok_iff.1 h
  obtain ⟨signatures, hsignatures, h⟩ := bind_eq_ok_iff.1 h
  obtain ⟨revocation, hrevocation, h⟩ := bind_eq_ok_iff.1 h
  exact ⟨chain, chainFindings, signatures, revocation, hchain, hsignatures, hrevocation,
    (Except.ok.inj h).symm⟩

/-- There is the chain that was built and no finding, or no chain and one finding. -/
theorem chainOrFinding_cases {chain : Option TrustChain}
    (h : v.chainOrFinding c anchor = .ok (chain, findings)) :
    (∃ built, chain = some built ∧ findings = [] ∧
        v.chainBuilder.build c anchor v.policy.maxChainDepth = .ok built) ∨
      ∃ finding, chain = none ∧ findings = [finding] ∧
        v.chainBuilder.build c anchor v.policy.maxChainDepth = .error (.invalid finding) := by
  unfold chainOrFinding at h
  split at h
  · rename_i built hbuild
    obtain ⟨rfl, rfl⟩ := Prod.mk.inj (Except.ok.inj h)
    exact .inl ⟨built, rfl, rfl, hbuild⟩
  · rename_i finding hbuild
    obtain ⟨rfl, rfl⟩ := Prod.mk.inj (Except.ok.inj h)
    exact .inr ⟨finding, rfl, rfl, hbuild⟩
  · cases h

/-- Without a chain there is a finding that says so. -/
theorem built_of_chainOrFinding {chain : Option TrustChain}
    (h : v.chainOrFinding c anchor = .ok (chain, findings))
    (honly : OnlyExpired findings) :
    ∃ built, chain = some built ∧
      v.chainBuilder.build c anchor v.policy.maxChainDepth = .ok built := by
  rcases chainOrFinding_cases h with ⟨built, hchain, _, hbuild⟩ | ⟨finding, _, rfl, hbuild⟩
  · exact ⟨built, hchain, hbuild⟩
  · have hkind := ChainBuilder.build_eq_invalid hbuild
    rw [honly finding List.mem_cons_self] at hkind
    cases hkind

theorem kind_of_mem_chainFindings {chain : Option TrustChain}
    (h : v.chainOrFinding c anchor = .ok (chain, findings)) (hf : f ∈ findings) :
    f.kind.isChainFailure = true := by
  rcases chainOrFinding_cases h with ⟨_, _, rfl, _⟩ | ⟨finding, _, rfl, hbuild⟩
  · cases hf
  · rw [List.mem_singleton.1 hf]
    exact ChainBuilder.build_eq_invalid hbuild

theorem kind_of_mem_issuerFindings (hf : f ∈ issuerFindings chain) :
    f.kind = .basicConstraintsMismatch := by
  obtain ⟨link, _, rfl⟩ := List.mem_map.1 hf
  rfl

theorem kind_of_mem_revocationFindings {check : RevocationCheck}
    (hf : f ∈ revocationFindings c check) : f.kind = .revoked := by
  unfold revocationFindings at hf
  split at hf
  · rw [List.mem_singleton.1 hf]
    rfl
  · cases hf

/-- What a report vouches for that finds at most that the certificate has expired. -/
structure Vouches (v : CertificateValidator) (s : CertificateStore) (now : Timestamp)
    (c : Certificate) (anchor : Option Certificate) (checkRevocation : Bool) (chain : TrustChain) :
    Prop where
  begun : c.notBefore ≤ now
  fits_role : c.FitsRole
  leads : chain.Leads s v.verifier v.policy.crossCertification c anchor v.policy.maxChainDepth
  verified : ∀ link ∈ chain.links, v.verifier.certificate link.1 link.2 = .ok true
  authorities : ∀ issuer ∈ chain.issuers, issuer.assertsCa = true
  verified_by_anchor : ∀ a ∈ anchor, DistinguishedName.same a.subject c.issuer = true →
    v.verifier.certificate c a = .ok true
  /-- The list that the lookup selects, if there is one, has no entry for the certificate. -/
  not_listed : checkRevocation = true → ∃ found, v.revocationChecker.find c = .ok found ∧
    ∀ crl source, found = some (crl, source) →
      SerialNumber.normalize c.serial ∉ crl.entries.map Prod.fst

/-- A report over a store that finds at most that the certificate has expired vouches for it, if
copies of the anchor in the store get the same verdict as the anchor. -/
theorem vouches_of_validate {s : CertificateStore} (hstore : v.certificates = s.repository)
    (hcopies : ∀ a ∈ anchor, ∀ copy ∈ s.certificates, copy.fingerprint = a.fingerprint →
      v.verifier.certificate c copy = v.verifier.certificate c a)
    (h : v.validate now c anchor checkRevocation = .ok report)
    (honly : OnlyExpired report.findings) :
    ∃ chain, report.chain = some chain ∧ v.Vouches s now c anchor checkRevocation chain := by
  obtain ⟨chain, chainFindings, signatures, revocation, hchain, hsignatures, hrevocation, rfl⟩ :=
    validate_cases h
  simp only [onlyExpired_append] at honly
  obtain ⟨⟨⟨⟨hown, hchainFindings⟩, hsigned⟩, hissuers⟩, hrevoked⟩ := honly
  obtain ⟨chain, rfl, hbuild⟩ := built_of_chainOrFinding hchain hchainFindings
  obtain ⟨hbegun, hrole⟩ := Certificate.fitsRole_of_ownFindings hown
  obtain ⟨hdirect, hlinks⟩ := verified_of_signatureFindings hsignatures hsigned
  have hleads : chain.Leads s v.verifier v.policy.crossCertification c anchor
      v.policy.maxChainDepth := by
    obtain ⟨rfl, hascends⟩ := ChainBuilder.build_eq_ok_iff.1 hbuild
    rw [chainBuilder, hstore] at hascends
    exact hascends.leads
  refine ⟨chain, rfl, hbegun, hrole, hleads, ?_, ?_, ?_, ?_⟩
  · intro link hlink
    rcases hlinks link hlink with hverdict | ⟨hchild, a, ha, hparent⟩
    · exact hverdict
    -- The link that was passed over is the one checked against the anchor itself.
    · have hanchor := (Option.filter_eq_some_iff.1 ha).1
      rw [hleads.child_eq hlink hchild, ← hdirect a ha]
      rcases hleads.issuing link.2 (TrustChain.parent_mem_issuers hlink) with ⟨hheld, _⟩ | hissuer
      · exact hcopies a hanchor link.2 hheld hparent.symm
      · rw [Option.some.inj (hissuer.symm.trans hanchor)]
  · exact assertsCa_of_issuerFindings hissuers
  · intro a ha hname
    exact hdirect a (Option.filter_eq_some_iff.2 ⟨ha, hname⟩)
  · rintro rfl
    obtain ⟨check, hcheck, rfl⟩ := map_eq_ok_iff.1 hrevocation
    exact RevocationChecker.not_listed_of_check hcheck
      (revoked_eq_false_of_revocationFindings hrevoked)

theorem notAfter_of_no_findings (h : v.validate now c anchor checkRevocation = .ok report)
    (hempty : report.findings = []) : now ≤ c.notAfter := by
  obtain ⟨_, _, _, _, _, _, _, rfl⟩ := validate_cases h
  simp only [List.append_eq_nil_iff, Certificate.ownFindings, Option.toList_eq_nil_iff] at hempty
  exact (Certificate.validityFinding_eq_none_iff.1 hempty.1.1.1.1.1.1).2

/-- A report without findings vouches for the certificate, and for its not having expired. -/
theorem validate_sound {s : CertificateStore} {crls : RevocationListStore}
    {verifier : SignatureVerifier} {policy : ValidationPolicy} {now : Timestamp} {c : Certificate}
    {anchor : Option Certificate} {checkRevocation : Bool} {report : ValidationReport}
    (hverifier : verifier.JudgesByFingerprint fun known =>
      known = c ∨ known ∈ anchor ∨ known ∈ s.certificates)
    (h : (CertificateValidator.mk s.repository crls.repository verifier policy).validate now c
      anchor checkRevocation = .ok report)
    (hempty : report.findings = []) :
    now ≤ c.notAfter ∧ ∃ chain, report.chain = some chain ∧
      (CertificateValidator.mk s.repository crls.repository verifier policy).Vouches s now c anchor
        checkRevocation chain := by
  refine ⟨notAfter_of_no_findings h hempty,
    vouches_of_validate rfl (fun a ha copy hcopy heq => ?_) h (by simp [OnlyExpired, hempty])⟩
  exact hverifier c c copy a (.inl rfl) (.inl rfl) (.inr (.inr hcopy)) (.inr (.inl ha)) rfl heq

end CertificateValidator

namespace Specimen

/-- The successor as another source records it. -/
def mirrored : Certificate := successor.withProvenance "mirror" true

/-- A list of the successor, on which the signer is not. -/
def list : RevocationList :=
  .ofEntries "CRL-1" "CN=Successor" none 0 none [.ofSerial "52" 40 none]

def validator : CertificateValidator :=
  ⟨store.repository, (RevocationListStore.empty.ingest list).repository, verifier, {}⟩

/-- The one link of the chain is passed over, as its parent is a copy of the anchor. -/
theorem signer_sound :
    validator.validate 50 signer (some mirrored) true =
        .ok ⟨[], some ⟨signer, [successor]⟩, some (.ofList signer 50 list .issuer), 50⟩ ∧
      50 ≤ signer.notAfter ∧ ∃ chain, some ⟨signer, [successor]⟩ = some chain ∧
        validator.Vouches store 50 signer (some mirrored) true chain := by
  have hreport : validator.validate 50 signer (some mirrored) true =
      .ok ⟨[], some ⟨signer, [successor]⟩, some (.ofList signer 50 list .issuer), 50⟩ := by
    with_unfolding_all rfl
  refine ⟨hreport, CertificateValidator.validate_sound ?_ hreport rfl⟩
  intro child child' parent parent' _ _ _ _ hchild hparent
  simp only [verifier, hchild, hparent]

end Specimen

end Mrtd
