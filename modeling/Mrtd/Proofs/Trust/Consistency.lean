import Mrtd.Proofs.Trust.Report

/-!
How the findings of a report agree with the rest of it. A report is put together of what the checks
file, one behind the other: three on the certificate itself, and one each on the chain, on the
signatures, on the issuers and on revocation. The kinds tell the checks apart but for one: a mismatch
of Basic Constraints is found of the certificate and of issuers. These are told apart by the
fingerprint, since no certificate occurs twice in a chain. So the number of findings of each kind can
be read off the certificate, the instant, the chain and the outcome for revocation.
-/

namespace Mrtd

/-- The kinds of findings on fields of a certificate. -/
def FindingKind.isOnFields : FindingKind → Bool
  | expired | notYetValid | basicConstraintsMismatch | keyUsageMismatch => true
  | _ => false

theorem FindingKind.isOnFields_of_isChainFailure {kind : FindingKind}
    (h : kind.isChainFailure = true) : kind.isOnFields = false := by
  cases kind with
  | chainBroken | chainTooLong | trustAnchorNotFound => rfl
  | _ => cases h

namespace Finding

variable {kinds : FindingKind → Bool} {kind : FindingKind} {fs gs : List Finding} {f : Finding}
  {c : Certificate}

/-- The number of findings of some kinds. -/
def count (kinds : FindingKind → Bool) (findings : List Finding) : Nat :=
  findings.countP (kinds ·.kind)

/-- The finding is on a field of the certificate itself. -/
def isOwn (c : Certificate) (f : Finding) : Bool :=
  f.kind.isOnFields && (f.kind != .basicConstraintsMismatch || f.fingerprint == c.fingerprint)

@[simp] theorem count_nil : count kinds [] = 0 := rfl

@[simp] theorem count_append : count kinds (fs ++ gs) = count kinds fs + count kinds gs :=
  List.countP_append

theorem count_singleton : count kinds [f] = if kinds f.kind then 1 else 0 := by
  simp [count, List.countP_singleton]

/-- Findings of one kind are taken all or not at all. -/
theorem filter_of_kind (h : ∀ f ∈ fs, f.kind = kind) :
    fs.filter (kinds ·.kind) = if kinds kind then fs else [] := by
  by_cases hkind : kinds kind = true
  · rw [if_pos hkind]
    apply List.filter_eq_self.2
    intro f hf
    rwa [h f hf]
  · rw [if_neg hkind]
    apply List.filter_eq_nil_iff.2
    intro f hf
    rwa [h f hf]

/-- A check that files one finding for a fault. -/
theorem count_fault {fault : Option String} :
    count kinds (fault.map (about c kind)).toList =
      if kinds kind = true ∧ fault ≠ none then 1 else 0 := by
  cases fault with
  | none => simp
  | some message => simp [count_singleton, about]

end Finding

open Finding

/-- Outside a window an instant is on one side, where the side before it comes first in a window
that ends before it begins. -/
theorem Timestamp.sides_of_window (first last now : Int) :
    ((if first ≤ now ∧ last < now then 1 else 0) + if now < first then 1 else 0) =
      if first ≤ now ∧ now ≤ last then 0 else 1 := by
  split_ifs <;> omega

namespace Certificate

variable {c : Certificate} {now : Timestamp} {kinds : FindingKind → Bool} {f : Finding}

/-- Outside the window there is one finding, and its kind says on which side. -/
theorem count_validityFinding :
    count kinds (c.validityFinding now).toList =
      if kinds .notYetValid = true ∧ now < c.notBefore ∨
        kinds .expired = true ∧ c.notBefore ≤ now ∧ c.notAfter < now then 1 else 0 := by
  unfold validityFinding
  by_cases hbefore : now < c.notBefore
  · have hnot : ¬ c.notBefore ≤ now := Int.not_le.2 hbefore
    simp [hbefore, hnot, count_singleton, about]
  have hbegun : c.notBefore ≤ now := Int.not_lt.1 hbefore
  by_cases hafter : c.notAfter < now
  · simp [hbefore, hbegun, hafter, count_singleton, about]
  · simp [hbefore, hafter]

theorem count_ownFindings :
    count kinds (c.ownFindings now) =
      count kinds (c.validityFinding now).toList +
        (if kinds .basicConstraintsMismatch = true ∧ c.basicConstraintsFault ≠ none then 1 else 0) +
        if kinds .keyUsageMismatch = true ∧ c.keyUsageFault ≠ none then 1 else 0 := by
  rw [ownFindings, count_append, count_append, basicConstraintsFinding, keyUsageFinding,
    count_fault, count_fault]

/-- The findings on the certificate's own fields name the certificate. -/
theorem about_of_mem_ownFindings (h : f ∈ c.ownFindings now) :
    f.subject = c.subject ∧ f.fingerprint = c.fingerprint := by
  have habout : ∃ kind message, f = .about c kind message := by
    rw [ownFindings, List.mem_append, List.mem_append] at h
    rcases h with (hvalidity | hconstraints) | husage
    · rw [Option.mem_toList, validityFinding] at hvalidity
      split at hvalidity
      · exact ⟨_, _, (Option.some.inj hvalidity).symm⟩
      · split at hvalidity
        · exact ⟨_, _, (Option.some.inj hvalidity).symm⟩
        · cases hvalidity
    · obtain ⟨fault, _, rfl⟩ := Option.map_eq_some_iff.1 (Option.mem_toList.1 hconstraints)
      exact ⟨_, _, rfl⟩
    · obtain ⟨fault, _, rfl⟩ := Option.map_eq_some_iff.1 (Option.mem_toList.1 husage)
      exact ⟨_, _, rfl⟩
  obtain ⟨kind, message, rfl⟩ := habout
  exact ⟨rfl, rfl⟩

theorem isOwn_of_mem_ownFindings (h : f ∈ c.ownFindings now) : f.isOwn c = true := by
  obtain ⟨_, hfingerprint⟩ := about_of_mem_ownFindings h
  rcases kind_of_mem_ownFindings h with hkind | hkind | hkind | hkind <;>
    simp [isOwn, hkind, hfingerprint, FindingKind.isOnFields]

end Certificate

/-- The issuers of the chain, if there is one. -/
def ValidationReport.issuers (r : ValidationReport) : List Certificate :=
  r.chain.elim [] (·.issuers)

/-- How the findings of a report on a certificate agree with its chain and its outcome for
revocation. -/
structure ValidationReport.Consistent (r : ValidationReport) (c : Certificate) (now : Timestamp)
    (checkRevocation : Bool) : Prop where
  no_chain : r.chain = none ↔ count FindingKind.isChainFailure r.findings = 1
  chain : r.chain ≠ none → count FindingKind.isChainFailure r.findings = 0
  revocation : r.revocation.isSome = true ↔ r.chain.isSome = true ∧ checkRevocation = true
  revoked : count (· == .revoked) r.findings = if r.isRevoked then 1 else 0
  not_yet_valid : count (· == .notYetValid) r.findings = if now < c.notBefore then 1 else 0
  window : count (· == .expired) r.findings + count (· == .notYetValid) r.findings =
    if c.notBefore ≤ now ∧ now ≤ c.notAfter then 0 else 1
  key_usage : count (· == .keyUsageMismatch) r.findings ≤ 1
  key_usage_about : ∀ f ∈ r.findings, f.kind = .keyUsageMismatch →
    f.subject = c.subject ∧ f.fingerprint = c.fingerprint
  basic_constraints : count (· == .basicConstraintsMismatch) r.findings =
    (if c.assertsCa = c.type.isAuthority then 0 else 1) + r.issuers.countP (!·.assertsCa)
  /-- The findings on the certificate itself are those of its own checks, in their order. -/
  own : r.findings.filter (isOwn c) = c.ownFindings now

namespace CertificateValidator

variable {v : CertificateValidator} {now : Timestamp} {c : Certificate}
  {anchor : Option Certificate} {checkRevocation : Bool} {chain : TrustChain}
  {report : ValidationReport} {failures : List Finding} {kinds : FindingKind → Bool}
  {kind : FindingKind}

theorem length_issuerFindings :
    (issuerFindings chain).length = chain.issuers.countP (!·.assertsCa) := by
  rw [issuerFindings, List.length_map, ← List.countP_eq_length_filter, ← chain.map_snd_links,
    List.countP_map]
  rfl

theorem length_revocationFindings {check : RevocationCheck} :
    (revocationFindings c check).length = if check.revoked then 1 else 0 := by
  unfold revocationFindings
  split <;> rfl

theorem isSome_of_checkIfAsked {chain : Option TrustChain} {revocation : Option RevocationCheck}
    (h : v.checkIfAsked now c chain checkRevocation = .ok revocation) :
    revocation.isSome = (chain.isSome && checkRevocation) := by
  unfold checkIfAsked at h
  split at h
  · rename_i hasked
    obtain ⟨check, _, rfl⟩ := map_eq_ok_iff.1 h
    exact hasked.symm
  · rename_i hnot
    obtain rfl := Except.ok.inj h
    exact (eq_false_of_ne_true hnot).symm

/-- A report with the findings of its checks, those on the chain by name. -/
structure Files (v : CertificateValidator) (now : Timestamp) (c : Certificate)
    (anchor : Option Certificate) (checkRevocation : Bool) (report : ValidationReport)
    (failures : List Finding) : Prop where
  findings : report.findings = c.ownFindings now ++ failures ++
    v.rejections (checkedPairs c (directAnchor c anchor) report.chain) ++
    report.chain.elim [] issuerFindings ++ report.revocation.elim [] (revocationFindings c)
  of_chain : ∀ f ∈ failures, f.kind.isChainFailure = true
  /-- There is a chain or the one finding that says why there is none. -/
  chain_or_failure : failures.length = if report.chain.isSome then 0 else 1
  revocation : report.revocation.isSome = (report.chain.isSome && checkRevocation)
  distinct : ∀ chain ∈ report.chain, ∀ issuer ∈ chain.issuers, issuer.fingerprint ≠ c.fingerprint

theorem exists_files (h : v.validate now c anchor checkRevocation = .ok report) :
    ∃ failures, v.Files now c anchor checkRevocation report failures := by
  obtain ⟨chain, failures, signatures, revocation, hchain, hsignatures, hrevocation, rfl⟩ :=
    validate_cases h
  obtain rfl := signatureFindings_eq_rejections hsignatures
  refine ⟨failures, rfl, ?_, ?_, isSome_of_checkIfAsked hrevocation, ?_⟩
  · intro f hf
    exact kind_of_mem_chainFindings hchain hf
  · rcases chainOrFinding_cases hchain with ⟨built, rfl, rfl, _⟩ | ⟨finding, rfl, rfl, _⟩
    · rfl
    · rfl
  · rintro built rfl
    rcases chainOrFinding_cases hchain with ⟨_, hsome, _, hbuild⟩ | ⟨_, hnone, _⟩
    · obtain rfl := Option.some.inj hsome
      intro issuer hissuer heq
      apply (ChainBuilder.build_eq_ok_iff.1 hbuild).2.nodup.2 issuer hissuer
      rw [heq]
      exact List.mem_singleton_self _
    · cases hnone

namespace Files

variable (h : v.Files now c anchor checkRevocation report failures)

include h

/-- The findings of some kinds, check by check. -/
theorem filter_kinds (kinds : FindingKind → Bool) :
    report.findings.filter (kinds ·.kind) =
      (c.ownFindings now).filter (kinds ·.kind) ++ failures.filter (kinds ·.kind) ++
        (if kinds .signatureInvalid then
          v.rejections (checkedPairs c (directAnchor c anchor) report.chain) else []) ++
        (if kinds .basicConstraintsMismatch then report.chain.elim [] issuerFindings else []) ++
        if kinds .revoked then report.revocation.elim [] (revocationFindings c) else [] := by
  have hsignatures : ∀ f ∈ v.rejections (checkedPairs c (directAnchor c anchor) report.chain),
      f.kind = .signatureInvalid := by
    intro f hf
    obtain ⟨pair, _, _, rfl⟩ := mem_rejections_iff.1 hf
    rfl
  have hissuers : ∀ f ∈ report.chain.elim [] issuerFindings,
      f.kind = .basicConstraintsMismatch := by
    cases report.chain with
    | none => simp
    | some chain => exact fun f hf => kind_of_mem_issuerFindings hf
  have hrevoked : ∀ f ∈ report.revocation.elim [] (revocationFindings c), f.kind = .revoked := by
    cases report.revocation with
    | none => simp
    | some check => exact fun f hf => kind_of_mem_revocationFindings hf
  rw [h.findings, List.filter_append, List.filter_append, List.filter_append, List.filter_append,
    filter_of_kind hsignatures, filter_of_kind hissuers, filter_of_kind hrevoked]

theorem count_findings :
    count kinds report.findings =
      count kinds (c.ownFindings now) + count kinds failures +
        (if kinds .signatureInvalid then
          (v.rejections (checkedPairs c (directAnchor c anchor) report.chain)).length else 0) +
        (if kinds .basicConstraintsMismatch then report.issuers.countP (!·.assertsCa) else 0) +
        if kinds .revoked = true ∧ report.isRevoked = true then 1 else 0 := by
  have hissuers : (report.chain.elim [] issuerFindings).length =
      report.issuers.countP (!·.assertsCa) := by
    rw [ValidationReport.issuers]
    cases report.chain with
    | none => rfl
    | some chain => exact length_issuerFindings
  have hrevoked : (report.revocation.elim [] (revocationFindings c)).length =
      if report.isRevoked then 1 else 0 := by
    rw [ValidationReport.isRevoked]
    cases report.revocation with
    | none => rfl
    | some check => exact length_revocationFindings
  simp only [count, List.countP_eq_length_filter, h.filter_kinds kinds, List.length_append,
    apply_ite List.length, List.length_nil, hissuers, hrevoked, ite_and]

theorem count_isChainFailure :
    count FindingKind.isChainFailure report.findings = if report.chain.isSome then 0 else 1 := by
  have hfailures : count FindingKind.isChainFailure failures = failures.length :=
    List.countP_eq_length.2 h.of_chain
  rw [h.count_findings, Certificate.count_ownFindings, Certificate.count_validityFinding, hfailures,
    h.chain_or_failure]
  simp [FindingKind.isChainFailure]

/-- Of a kind that is filed neither for the chain nor for signatures, findings are on the
certificate, on issuers or on revocation. -/
theorem count_kind (hfailure : kind.isChainFailure = false) (hsignature : kind ≠ .signatureInvalid) :
    count (· == kind) report.findings =
      count (· == kind) (c.ownFindings now) +
        (if .basicConstraintsMismatch = kind then report.issuers.countP (!·.assertsCa) else 0) +
        if .revoked = kind ∧ report.isRevoked = true then 1 else 0 := by
  have hfailures : count (· == kind) failures = 0 := by
    apply List.countP_eq_zero.2
    intro f hf hkind
    have hother := h.of_chain f hf
    rw [eq_of_beq hkind, hfailure] at hother
    cases hother
  rw [h.count_findings, hfailures]
  simp [hsignature.symm]

/-- The findings on fields are those on the certificate and those on issuers. -/
theorem filter_isOnFields :
    report.findings.filter (·.kind.isOnFields) =
      c.ownFindings now ++ report.chain.elim [] issuerFindings := by
  have hown : (c.ownFindings now).filter (·.kind.isOnFields) = c.ownFindings now := by
    apply List.filter_eq_self.2
    intro f hf
    exact (Bool.and_eq_true_iff.1 (Certificate.isOwn_of_mem_ownFindings hf)).1
  have hfailures : failures.filter (·.kind.isOnFields) = [] := by
    apply List.filter_eq_nil_iff.2
    intro f hf
    simp [FindingKind.isOnFields_of_isChainFailure (h.of_chain f hf)]
  rw [h.filter_kinds FindingKind.isOnFields, hown, hfailures]
  simp [FindingKind.isOnFields]

/-- An issuer is not the certificate, so the findings on issuers are not on the certificate. -/
theorem filter_isOwn : report.findings.filter (isOwn c) = c.ownFindings now := by
  have hown : (c.ownFindings now).filter (isOwn c) = c.ownFindings now :=
    List.filter_eq_self.2 fun f hf => Certificate.isOwn_of_mem_ownFindings hf
  have hissuers : (report.chain.elim [] issuerFindings).filter (isOwn c) = [] := by
    apply List.filter_eq_nil_iff.2
    intro f hf hisOwn
    cases hchain : report.chain with
    | none => simp [hchain] at hf
    | some chain =>
        rw [hchain] at hf
        obtain ⟨link, hlink, rfl⟩ := List.mem_map.1 hf
        have hparent := TrustChain.parent_mem_issuers (List.mem_filter.1 hlink).1
        exact h.distinct chain hchain link.2 hparent (eq_of_beq hisOwn)
  have hfields : report.findings.filter (isOwn c) =
      (report.findings.filter (·.kind.isOnFields)).filter (isOwn c) := by
    rw [List.filter_filter]
    apply List.filter_congr
    intro f _
    cases hkind : f.kind.isOnFields <;> simp [isOwn, hkind]
  rw [hfields, h.filter_isOnFields, List.filter_append, hown, hissuers, List.append_nil]

theorem count_notYetValid :
    count (· == .notYetValid) report.findings = if now < c.notBefore then 1 else 0 := by
  rw [h.count_kind rfl (by decide), Certificate.count_ownFindings,
    Certificate.count_validityFinding]
  simp

theorem count_expired :
    count (· == .expired) report.findings =
      if c.notBefore ≤ now ∧ c.notAfter < now then 1 else 0 := by
  rw [h.count_kind rfl (by decide), Certificate.count_ownFindings,
    Certificate.count_validityFinding]
  simp

theorem count_basicConstraintsMismatch :
    count (· == .basicConstraintsMismatch) report.findings =
      (if c.assertsCa = c.type.isAuthority then 0 else 1) +
        report.issuers.countP (!·.assertsCa) := by
  have hfault : c.basicConstraintsFault ≠ none ↔ ¬ c.assertsCa = c.type.isAuthority :=
    not_congr Certificate.basicConstraintsFault_eq_none_iff
  rw [h.count_kind rfl (by decide), Certificate.count_ownFindings,
    Certificate.count_validityFinding]
  by_cases hfits : c.assertsCa = c.type.isAuthority
  · simp [hfault, hfits]
  · simp [hfault, hfits]

theorem count_keyUsageMismatch : count (· == .keyUsageMismatch) report.findings ≤ 1 := by
  rw [h.count_kind rfl (by decide), Certificate.count_ownFindings,
    Certificate.count_validityFinding]
  by_cases husage : c.keyUsageFault = none
  · simp [husage]
  · simp [husage]

theorem consistent : report.Consistent c now checkRevocation := by
  constructor
  · rw [h.count_isChainFailure]
    cases report.chain <;> simp
  · intro hchain
    rw [h.count_isChainFailure, if_pos (Option.isSome_iff_ne_none.2 hchain)]
  · rw [h.revocation, Bool.and_eq_true]
  · rw [h.count_kind rfl (by decide), Certificate.count_ownFindings,
      Certificate.count_validityFinding]
    simp
  · exact h.count_notYetValid
  · rw [h.count_expired, h.count_notYetValid]
    exact Timestamp.sides_of_window c.notBefore c.notAfter now
  · exact h.count_keyUsageMismatch
  · intro f hf hkind
    have hown : f ∈ report.findings.filter (isOwn c) := by
      simp [List.mem_filter, hf, isOwn, hkind, FindingKind.isOnFields]
    rw [h.filter_isOwn] at hown
    exact Certificate.about_of_mem_ownFindings hown
  · exact h.count_basicConstraintsMismatch
  · exact h.filter_isOwn

end Files

/-- Every report on a certificate is consistent, and what it finds of the certificate itself is what
any other validation at that instant finds. -/
theorem validate_consistent (h : v.validate now c anchor checkRevocation = .ok report) :
    report.Consistent c now checkRevocation ∧
      ∀ (other : CertificateValidator) (anchor' : Option Certificate) (checkRevocation' : Bool)
        (report' : ValidationReport),
        other.validate now c anchor' checkRevocation' = .ok report' →
          report'.findings.filter (isOwn c) = report.findings.filter (isOwn c) := by
  obtain ⟨failures, hfiles⟩ := exists_files h
  refine ⟨hfiles.consistent, ?_⟩
  intro other anchor' checkRevocation' report' h'
  obtain ⟨failures', hfiles'⟩ := exists_files h'
  rw [hfiles.filter_isOwn, hfiles'.filter_isOwn]

end CertificateValidator

namespace Specimen

/-- An authority without Basic Constraints. -/
def bareAuthority : Certificate :=
  { certificate .csca "CN=Bare" "CN=Bare" with basicConstraints := none }

/-- A signer of that authority with faults of its own: its window ends before it begins, it asserts
that it is an authority, and it has no Key Usage. -/
def misfit : Certificate :=
  { certificate .dsc "CN=Misfit" "CN=Bare" with
    notBefore := 60, notAfter := 40, basicConstraints := some ⟨true, none⟩, keyUsage := none }

/-- Takes every signature for one of the authority. -/
def bareVerifier : SignatureVerifier where
  certificate _ parent := .ok (parent.fingerprint == bareAuthority.fingerprint)
  content _ _ _ _ := .ok true

/-- The list of the authority has the signer. -/
def bareValidator : CertificateValidator :=
  ⟨(CertificateStore.ofList [bareAuthority]).repository,
    (RevocationListStore.empty.ingest
      (.ofEntries "CRL-2" "CN=Bare" none 0 none [.ofSerial "51" 40 none])).repository,
    bareVerifier, {}⟩

theorem misfit_consistent :
    ∃ report, bareValidator.validate 50 misfit none true = .ok report ∧
      report.findings.map (·.kind) = [.notYetValid, .basicConstraintsMismatch, .keyUsageMismatch,
        .basicConstraintsMismatch, .revoked] ∧
      report.Consistent misfit 50 true ∧
      ∃ report', validator.validate 50 misfit (some root) false = .ok report' ∧
        report'.chain = none ∧
        report'.findings.filter (isOwn misfit) = report.findings.filter (isOwn misfit) := by
  have hkinds : (bareValidator.validate 50 misfit none true).toOption.any (fun report =>
      report.findings.map (·.kind) == [.notYetValid, .basicConstraintsMismatch, .keyUsageMismatch,
        .basicConstraintsMismatch, .revoked]) = true := by
    decide +kernel
  have hchain : (validator.validate 50 misfit (some root) false).toOption.any (fun report =>
      report.chain == none) = true := by
    decide +kernel
  obtain ⟨report, hreport, hfindings⟩ := (Option.any_eq_true ..).1 hkinds
  obtain ⟨report', hreport', hnone⟩ := (Option.any_eq_true ..).1 hchain
  have h := toOption_eq_some_iff.1 hreport
  have h' := toOption_eq_some_iff.1 hreport'
  obtain ⟨hconsistent, hown⟩ := CertificateValidator.validate_consistent h
  exact ⟨report, h, eq_of_beq hfindings, hconsistent, report', h', eq_of_beq hnone,
    hown _ _ _ _ h'⟩

end Specimen

end Mrtd
