import Mrtd.Proofs.Trust.Ranking
import Mrtd.Proofs.Trust.Walk

/-!
What a step of a walk depends on. The candidates for an issuer are described without their order:
what the store offers, and the anchor where the store offers no copy of it. As no two of them share
a fingerprint, the one that is selected is the only one that no other comes before, so a step
depends on which certificates the store holds and not on how they are arranged.
-/

namespace Mrtd

namespace IssuerCandidates

variable {verifier : SignatureVerifier} {child x : Certificate} {candidates : List Certificate}

theorem exists_select (h : candidates ≠ []) : ∃ x, select verifier child candidates = some x :=
  Option.ne_none_iff_exists'.1 (mt select_eq_none_iff.1 h)

/-- Of candidates with distinct fingerprints the one is selected that no other comes before. -/
theorem select_eq_some_iff (hdistinct : (candidates.map (·.fingerprint)).Nodup) :
    select verifier child candidates = some x ↔
      x ∈ candidates ∧ ∀ y ∈ candidates, ¬Precedes verifier child y x := by
  constructor
  · intro h
    exact ⟨mem_of_select h, not_precedes_of_select h⟩
  · rintro ⟨hmem, hbest⟩
    have hexists : ∃ selected, select verifier child candidates = some selected :=
      exists_select (List.ne_nil_of_mem hmem)
    obtain ⟨selected, hselect⟩ := hexists
    have hselected := mem_of_select hselect
    have hprint : x.fingerprint = selected.fingerprint :=
      fingerprint_eq_of_not_precedes (not_precedes_of_select hselect x hmem)
        (hbest selected hselected)
    rw [hselect, List.inj_on_of_nodup_map hdistinct hmem hselected hprint]

/-- The order of the candidates does not matter. -/
theorem select_congr {candidates' : List Certificate}
    (hdistinct : (candidates.map (·.fingerprint)).Nodup)
    (hdistinct' : (candidates'.map (·.fingerprint)).Nodup)
    (hmem : ∀ x, x ∈ candidates ↔ x ∈ candidates') :
    select verifier child candidates = select verifier child candidates' := by
  ext x
  simp only [select_eq_some_iff hdistinct, select_eq_some_iff hdistinct', hmem]

end IssuerCandidates

namespace ChainBuilder

open IssuerCandidates

/-- A store offers a certificate as the issuer of another, to a walk that has met a path. -/
structure Offers (s : CertificateStore) (policy : CrossCertificationPolicy) (path : List String)
    (current issuer : Certificate) : Prop where
  held : issuer ∈ s.certificates
  named : DistinguishedName.same issuer.subject current.issuer = true
  allowed : policy.allowsIssuer issuer.type = true
  fresh : issuer.fingerprint ∉ path

/-- A candidate for the issuer of a certificate: what the store offers, or the anchor if its name
fits and the store offers no copy of it. -/
inductive Candidate (s : CertificateStore) (policy : CrossCertificationPolicy)
    (anchor : Option Certificate) (path : List String) (current : Certificate) : Certificate → Prop
  | offered {issuer : Certificate} :
      Offers s policy path current issuer → Candidate s policy anchor path current issuer
  | anchor {a : Certificate} :
      a ∈ anchor → DistinguishedName.same a.subject current.issuer = true →
        a.fingerprint ∉ path →
          (∀ issuer, Offers s policy path current issuer → issuer.fingerprint ≠ a.fingerprint) →
            Candidate s policy anchor path current a

variable {s : CertificateStore} {verifier : SignatureVerifier} {policy : CrossCertificationPolicy}
  {anchor : Option Certificate} {path : List String} {current issuer a : Certificate}

theorem Offers.mono {t : CertificateStore} (hsubset : s.certificates ⊆ t.certificates)
    (h : Offers s policy path current issuer) : Offers t policy path current issuer :=
  ⟨hsubset h.held, h.named, h.allowed, h.fresh⟩

/-- What a larger store holds besides takes no candidate away, unless it is a copy of the anchor. -/
theorem Candidate.mono {t : CertificateStore} (hsubset : s.certificates ⊆ t.certificates)
    (hcopies : ∀ a ∈ anchor, ∀ copy ∈ t.certificates, copy.fingerprint = a.fingerprint →
      copy ∈ s.certificates)
    (h : Candidate s policy anchor path current issuer) :
    Candidate t policy anchor path current issuer := by
  cases h with
  | offered hoffered => exact .offered (hoffered.mono hsubset)
  | anchor ha hnamed hfresh hnone =>
      refine .anchor ha hnamed hfresh fun copy hcopy heq => ?_
      have hheld : copy ∈ s.certificates := hcopies issuer ha copy hcopy.held heq
      exact hnone copy ⟨hheld, hcopy.named, hcopy.allowed, hcopy.fresh⟩ heq

theorem mem_eligible_iff_offers :
    issuer ∈ (ChainBuilder.mk s.repository verifier policy).eligible path
        (s.findBySubject current.issuer) ↔ Offers s policy path current issuer := by
  rw [mem_eligible, CertificateStore.mem_findBySubject]
  constructor
  · rintro ⟨⟨hheld, hnamed⟩, hallowed, hfresh⟩
    exact ⟨hheld, hnamed, hallowed, hfresh⟩
  · rintro ⟨hheld, hnamed, hallowed, hfresh⟩
    exact ⟨⟨hheld, hnamed⟩, hallowed, hfresh⟩

theorem anchorJoins_iff :
    (ChainBuilder.mk s.repository verifier policy).anchorJoins path current
        (s.findBySubject current.issuer) a = true ↔
      DistinguishedName.same a.subject current.issuer = true ∧ a.fingerprint ∉ path ∧
        ∀ issuer, Offers s policy path current issuer → issuer.fingerprint ≠ a.fingerprint := by
  rw [anchorJoins, Bool.and_eq_true, Bool.and_eq_true, Bool.not_eq_true', Bool.not_eq_true',
    List.any_eq_false, and_assoc]
  refine and_congr_right fun _ => and_congr (by simp) ?_
  refine forall_congr' fun issuer => ?_
  rw [mem_eligible_iff_offers, beq_iff_eq]

/-- The candidates over a store: which they are, and that no two of them share a fingerprint if no
two of the store do. -/
theorem candidates_of_store (s : CertificateStore) (verifier : SignatureVerifier)
    (policy : CrossCertificationPolicy) (anchor : Option Certificate) (path : List String)
    (current : Certificate) :
    ∃ cs, (ChainBuilder.mk s.repository verifier policy).candidates anchor path current = .ok cs ∧
      ((s.certificates.map (·.fingerprint)).Nodup → (cs.map (·.fingerprint)).Nodup) ∧
        ∀ issuer, issuer ∈ cs ↔ Candidate s policy anchor path current issuer := by
  refine ⟨_, candidates_of_found (CertificateStore.findBySubject_repository _), ?_, ?_⟩
  · intro hdistinct
    have heligible : ((ChainBuilder.mk s.repository verifier policy).eligible path
        (s.findBySubject current.issuer)).Sublist s.certificates :=
      List.filter_sublist.trans List.filter_sublist
    rw [List.map_append, List.nodup_append]
    refine ⟨hdistinct.sublist (heligible.map _), ?_, ?_⟩
    · cases anchor.filter _ <;> simp
    · intro print hprint other hother heq
      obtain ⟨issuer, hissuer, rfl⟩ := List.mem_map.1 hprint
      obtain ⟨a, ha, rfl⟩ := List.mem_map.1 hother
      obtain ⟨_, hjoins⟩ := Option.filter_eq_some_iff.1 (Option.mem_toList.1 ha)
      exact (anchorJoins_iff.1 hjoins).2.2 issuer (mem_eligible_iff_offers.1 hissuer) heq
  · intro issuer
    rw [List.mem_append, mem_eligible_iff_offers, Option.mem_toList, Option.filter_eq_some_iff]
    constructor
    · rintro (hoffered | ⟨hanchor, hjoins⟩)
      · exact .offered hoffered
      · obtain ⟨hnamed, hfresh, hnone⟩ := anchorJoins_iff.1 hjoins
        exact .anchor hanchor hnamed hfresh hnone
    · rintro (hoffered | ⟨hanchor, hnamed, hfresh, hnone⟩)
      · exact .inl hoffered
      · exact .inr ⟨hanchor, anchorJoins_iff.2 ⟨hnamed, hfresh, hnone⟩⟩

/-- A walk over a store chooses the candidate that no other comes before. -/
theorem chooses_iff (hdistinct : (s.certificates.map (·.fingerprint)).Nodup) :
    (ChainBuilder.mk s.repository verifier policy).Chooses anchor path current issuer ↔
      Candidate s policy anchor path current issuer ∧
        ∀ rival, Candidate s policy anchor path current rival →
          ¬Precedes verifier current rival issuer := by
  obtain ⟨cs, hcandidates, hprints, hmem⟩ :=
    candidates_of_store s verifier policy anchor path current
  simp only [← hmem, ← select_eq_some_iff (hprints hdistinct)]
  constructor
  · rintro ⟨cs', hcandidates', hselect⟩
    obtain rfl := Except.ok.inj (hcandidates.symm.trans hcandidates')
    exact hselect
  · intro hselect
    exact ⟨cs, hcandidates, hselect⟩

end ChainBuilder

end Mrtd
