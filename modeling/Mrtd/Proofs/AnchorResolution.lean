import Mrtd.Proofs.StoreOrder

/-!
The anchor of a signer and the chain to it. The anchor is selected from the authorities of a
country, and the walk that has to end there selects once more, from what the store offers under the
name and from the anchor itself. Where every authority of the name is one of the country, both
select from the same certificates: the chain is the one link to the anchor, and where there is no
anchor, there is no chain either.
-/

namespace Mrtd

open CertificateStore

/-- Without cross-certification only authorities issue. -/
theorem CrossCertificationPolicy.allowsIssuer_default_iff {type : CertificateType} :
    ({} : CrossCertificationPolicy).allowsIssuer type = true ↔ type = .csca := by
  cases type <;> simp [allowsIssuer]

namespace ChainBuilder

variable {s : CertificateStore} {verifier : SignatureVerifier} {signer issuer : Certificate}
  {country : String} {anchor : Option Certificate}

section Confined

variable (hcountry : ∀ c ∈ s.certificates, c.type = .csca →
    DistinguishedName.same c.subject signer.issuer = true →
      ∃ code ∈ c.country, Text.eqIgnoreAsciiCase code country = true)
  (hother : ∀ c ∈ s.authorities signer country, c.fingerprint ≠ signer.fingerprint)

include hcountry hother

/-- The store offers a signer the authorities of the country. -/
theorem offers_signer_iff :
    Offers s {} [signer.fingerprint] signer issuer ↔ issuer ∈ s.authorities signer country := by
  constructor
  · rintro ⟨hheld, hnamed, hallowed, _⟩
    have htype : issuer.type = .csca := CrossCertificationPolicy.allowsIssuer_default_iff.1 hallowed
    have hcode := (Option.any_eq_true ..).2 (hcountry issuer hheld htype hnamed)
    exact mem_authorities.2 ⟨hheld, hcode, beq_iff_eq.2 htype, hnamed⟩
  · intro hmem
    obtain ⟨hheld, _, htype, hnamed⟩ := mem_authorities.1 hmem
    have hallowed := CrossCertificationPolicy.allowsIssuer_default_iff.2 (eq_of_beq htype)
    exact ⟨hheld, hnamed, hallowed, fun hmet => hother issuer hmem (List.mem_singleton.1 hmet)⟩

/-- An anchor from among the authorities adds no candidate to them. -/
theorem candidate_signer_iff (hanchor : ∀ a ∈ anchor, a ∈ s.authorities signer country) :
    Candidate s {} anchor [signer.fingerprint] signer issuer ↔
      issuer ∈ s.authorities signer country := by
  constructor
  · rintro (hoffered | ⟨ha, _, _, _⟩)
    · exact (offers_signer_iff hcountry hother).1 hoffered
    · exact hanchor issuer ha
  · intro hmem
    exact .offered ((offers_signer_iff hcountry hother).2 hmem)

/-- The walk selects the issuer of a signer as if from the authorities of the country. -/
theorem exists_candidates_signer (hdistinct : (s.certificates.map (·.fingerprint)).Nodup)
    (hanchor : ∀ a ∈ anchor, a ∈ s.authorities signer country) :
    ∃ cs, (ChainBuilder.mk s.repository verifier {}).candidates anchor [signer.fingerprint] signer =
        .ok cs ∧
      IssuerCandidates.select verifier signer cs =
        IssuerCandidates.select verifier signer (s.authorities signer country) := by
  obtain ⟨cs, hcandidates, hprints, hmem⟩ :=
    candidates_of_store s verifier {} anchor [signer.fingerprint] signer
  have hauthorities : ((s.authorities signer country).map (·.fingerprint)).Nodup :=
    hdistinct.sublist (authorities_sublist.map _)
  refine ⟨cs, hcandidates, ?_⟩
  apply IssuerCandidates.select_congr (hprints hdistinct) hauthorities
  intro issuer
  exact (hmem issuer).trans (candidate_signer_iff hcountry hother hanchor)

end Confined

theorem passes_of_not_selfIssued {b : ChainBuilder} (hself : signer.isSelfIssued = false)
    (hanchor : ∀ a ∈ anchor, a.fingerprint ≠ signer.fingerprint) : b.Passes anchor signer := by
  refine ⟨hanchor, isSelfSigned_eq_false_iff.2 fun hissued => ?_⟩
  cases hself.symm.trans hissued

end ChainBuilder

namespace Authenticator

open ChainBuilder

/-- A signer whose possible issuers are all authorities of the issuing country is linked to the
anchor that is resolved for it, and has no chain if there is none. -/
theorem build_of_resolveAnchor {s : CertificateStore} {lists : RevocationListRepository}
    {verifier : SignatureVerifier} {policy : AuthenticationPolicy} {signer : Certificate}
    {country : String} {maxDepth : Nat}
    (hdistinct : (s.certificates.map (·.fingerprint)).Nodup)
    (hcross : policy.validation.crossCertification = {})
    (hself : signer.isSelfIssued = false)
    (hother : ∀ c ∈ s.authorities signer country, c.fingerprint ≠ signer.fingerprint)
    (hcountry : ∀ c ∈ s.certificates, c.type = .csca →
      DistinguishedName.same c.subject signer.issuer = true →
        ∃ code ∈ c.country, Text.eqIgnoreAsciiCase code country = true)
    (hdepth : 1 ≤ maxDepth) :
    ∃ found,
      (Authenticator.mk s.repository lists verifier policy).resolveAnchor signer country =
          .ok found ∧
        (∀ anchor, found = some anchor →
          (Authenticator.mk s.repository lists verifier policy).validator.chainBuilder.build signer
            (some anchor) maxDepth = .ok ⟨signer, [anchor]⟩) ∧
        (found = none →
          (Authenticator.mk s.repository lists verifier policy).validator.chainBuilder.build signer
            none maxDepth = .error (.invalid (broken signer signer))) := by
  have hbuilder : (Authenticator.mk s.repository lists verifier policy).validator.chainBuilder =
      ⟨s.repository, verifier, {}⟩ := by
    rw [validator, CertificateValidator.chainBuilder, hcross]
  obtain ⟨left, rfl⟩ := Nat.exists_eq_add_of_le' hdepth
  refine ⟨_, resolveAnchor_repository, ?_, ?_⟩
  · intro anchor hselect
    have hmem : anchor ∈ s.authorities signer country := IssuerCandidates.mem_of_select hselect
    have hanchor : ∀ a ∈ some anchor, a ∈ s.authorities signer country := by
      intro a ha
      exact Option.some.inj ha ▸ hmem
    have hpasses : (ChainBuilder.mk s.repository verifier {}).Passes (some anchor) signer :=
      passes_of_not_selfIssued hself fun a ha => hother a (hanchor a ha)
    obtain ⟨cs, hcandidates, hsame⟩ :=
      exists_candidates_signer hcountry hother hdistinct hanchor
    rw [hbuilder, build_eq_ok_iff]
    exact ⟨rfl, .step hpasses ⟨cs, hcandidates, hsame.trans hselect⟩ (.ends rfl)⟩
  · intro hselect
    have hpasses : (ChainBuilder.mk s.repository verifier {}).Passes none signer :=
      passes_of_not_selfIssued hself (by simp)
    have hanchor : ∀ a ∈ (none : Option Certificate), a ∈ s.authorities signer country := by simp
    obtain ⟨cs, hcandidates, hsame⟩ :=
      exists_candidates_signer hcountry hother hdistinct hanchor
    have hnext : (ChainBuilder.mk s.repository verifier {}).next signer none [signer.fingerprint]
        signer = .error (.invalid (broken signer signer)) := by
      rw [next_of_candidates hcandidates, hsame, hselect]
    rw [hbuilder, build, walk_succ_of_next_error (atEnd_eq_false_iff.2 hpasses) hnext]
    rfl

end Authenticator

namespace Specimen

/-- A signer whose issuer is unknown. -/
def orphan : Certificate := certificate .dsc "CN=Orphan" "CN=Nobody"

/-- Both generations of the root could be the anchor; the later one is, and the chain leads to it. A
signer of an unknown issuer has neither anchor nor chain. -/
theorem bothRoots_build_of_resolveAnchor :
    (bothRoots.certificates.map (·.fingerprint)).Nodup ∧
      bothRoots.authorities youngSigner "kr" = [root, reissued] ∧
      bothRoots.authorities orphan "kr" = [] ∧
      (Authenticator.mk bothRoots.repository RevocationListStore.empty.repository sharedKeyVerifier
        {}).resolveAnchor youngSigner "kr" = .ok (some reissued) ∧
      (Authenticator.mk bothRoots.repository RevocationListStore.empty.repository sharedKeyVerifier
        {}).validator.chainBuilder.build youngSigner (some reissued) 1 =
          .ok ⟨youngSigner, [reissued]⟩ ∧
      (Authenticator.mk bothRoots.repository RevocationListStore.empty.repository sharedKeyVerifier
        {}).resolveAnchor orphan "kr" = .ok none ∧
      (Authenticator.mk bothRoots.repository RevocationListStore.empty.repository sharedKeyVerifier
        {}).validator.chainBuilder.build orphan none 1 =
          .error (.invalid (ChainBuilder.broken orphan orphan)) := by
  have hdistinct : (bothRoots.certificates.map (·.fingerprint)).Nodup := by decide
  have hcross : ({} : AuthenticationPolicy).validation.crossCertification = {} := rfl
  have hself : youngSigner.isSelfIssued = false := by with_unfolding_all rfl
  have hself' : orphan.isSelfIssued = false := by with_unfolding_all rfl
  have hyoung : bothRoots.authorities youngSigner "kr" = [root, reissued] := by decide +kernel
  have horphan : bothRoots.authorities orphan "kr" = [] := by decide +kernel
  have hcountry : ∀ c ∈ bothRoots.certificates,
      ∃ code ∈ c.country, Text.eqIgnoreAsciiCase code "kr" = true := by
    intro c hc
    obtain rfl | rfl : c = root ∨ c = reissued := by simpa using mem_of_mem_ofList hc
    · exact ⟨"KR", rfl, by decide⟩
    · exact ⟨"KR", rfl, by decide⟩
  have hresolved : (Authenticator.mk bothRoots.repository RevocationListStore.empty.repository
      sharedKeyVerifier {}).resolveAnchor youngSigner "kr" = .ok (some reissued) := by
    with_unfolding_all rfl
  have hunresolved : (Authenticator.mk bothRoots.repository RevocationListStore.empty.repository
      sharedKeyVerifier {}).resolveAnchor orphan "kr" = .ok none := by
    with_unfolding_all rfl
  obtain ⟨found, hfound, hchain, _⟩ := Authenticator.build_of_resolveAnchor hdistinct hcross
    hself (by rw [hyoung]; decide) (fun c hc _ _ => hcountry c hc) (Nat.le_refl 1)
  obtain rfl := Except.ok.inj (hresolved.symm.trans hfound)
  obtain ⟨missing, hmissing, _, hbroken⟩ := Authenticator.build_of_resolveAnchor hdistinct
    hcross hself' (by simp [horphan]) (fun c hc _ _ => hcountry c hc) (Nat.le_refl 1)
  obtain rfl := Except.ok.inj (hunresolved.symm.trans hmissing)
  exact ⟨hdistinct, hyoung, horphan, hresolved, hchain reissued rfl, hunresolved, hbroken rfl⟩

end Specimen

end Mrtd
