import Mrtd.Proofs.Trust.Candidates
import Mrtd.Trust.Validation

/-!
The direct check of a signer and the walk to the same authority. The walk takes the best candidate
for the issuer, which need not be the authority: a certificate of the store that bears the same name
and verifies the signer too may rank higher, and the walk never turns back from it. It ends at the
authority within one link exactly if nothing in the store ranks higher.
-/

namespace Mrtd

namespace ChainBuilder

/-- What a store offers as the issuer of a certificate. -/
structure MayIssue (s : CertificateStore) (policy : CrossCertificationPolicy)
    (c issuer : Certificate) : Prop where
  held : issuer ∈ s.certificates
  named : DistinguishedName.same issuer.subject c.issuer = true
  allowed : policy.allowsIssuer issuer.type = true
  other : issuer.fingerprint ≠ c.fingerprint

/-- The candidate by which a walk can get from a certificate to the anchor at once: a copy of the
anchor that the store offers, or, if it offers none, the anchor itself. -/
inductive StandsFor (s : CertificateStore) (policy : CrossCertificationPolicy)
    (c anchor : Certificate) : Certificate → Prop
  | copy {issuer : Certificate} :
      MayIssue s policy c issuer → issuer.fingerprint = anchor.fingerprint →
        StandsFor s policy c anchor issuer
  | itself :
      (∀ issuer, MayIssue s policy c issuer → issuer.fingerprint ≠ anchor.fingerprint) →
        StandsFor s policy c anchor anchor

variable {s : CertificateStore} {verifier : SignatureVerifier} {policy : CrossCertificationPolicy}
  {c anchor issuer : Certificate} {maxDepth : Nat}

theorem StandsFor.fingerprint_eq (h : StandsFor s policy c anchor issuer) :
    issuer.fingerprint = anchor.fingerprint := by
  cases h with
  | copy _ heq => exact heq
  | itself _ => rfl

/-- What may issue a certificate is what the store offers to a walk that starts from it. -/
theorem offers_start_iff :
    Offers s policy [c.fingerprint] c issuer ↔ MayIssue s policy c issuer := by
  constructor
  · rintro ⟨hheld, hnamed, hallowed, hfresh⟩
    exact ⟨hheld, hnamed, hallowed, fun heq => hfresh (List.mem_singleton.2 heq)⟩
  · rintro ⟨hheld, hnamed, hallowed, hother⟩
    exact ⟨hheld, hnamed, hallowed, fun hmet => hother (List.mem_singleton.1 hmet)⟩

theorem exists_standsFor (s : CertificateStore) (policy : CrossCertificationPolicy)
    (c anchor : Certificate) : ∃ issuer, StandsFor s policy c anchor issuer := by
  by_cases hcopy : ∃ issuer, MayIssue s policy c issuer ∧ issuer.fingerprint = anchor.fingerprint
  · obtain ⟨issuer, hoffered, heq⟩ := hcopy
    exact ⟨issuer, .copy hoffered heq⟩
  · exact ⟨anchor, .itself fun issuer hoffered heq => hcopy ⟨issuer, hoffered, heq⟩⟩

open IssuerCandidates

/-- Nothing that the store offers as the issuer of a certificate comes before what stands for the
anchor. -/
def Unrivalled (s : CertificateStore) (verifier : SignatureVerifier)
    (policy : CrossCertificationPolicy) (c anchor : Certificate) : Prop :=
  ∃ issuer, StandsFor s policy c anchor issuer ∧
    ∀ rival, MayIssue s policy c rival → ¬Precedes verifier c rival issuer

section Direct

variable (hnamed : DistinguishedName.same anchor.subject c.issuer = true)
  (hother : anchor.fingerprint ≠ c.fingerprint)

include hnamed hother

/-- The candidates for the first issuer: what the store offers, and what stands for the anchor. -/
theorem candidate_start_iff :
    Candidate s policy (some anchor) [c.fingerprint] c issuer ↔
      MayIssue s policy c issuer ∨ StandsFor s policy c anchor issuer := by
  constructor
  · rintro (hoffered | ⟨hanchor, _, _, hnone⟩)
    · exact .inl (offers_start_iff.1 hoffered)
    · obtain rfl := Option.some.inj hanchor
      exact .inr (.itself fun issuer hoffered => hnone issuer (offers_start_iff.2 hoffered))
  · rintro (hoffered | hstands)
    · exact .offered (offers_start_iff.2 hoffered)
    · cases hstands with
      | copy hoffered _ => exact .offered (offers_start_iff.2 hoffered)
      | itself hnone =>
          refine .anchor rfl hnamed (by simpa using hother) fun issuer hoffered => ?_
          exact hnone issuer (offers_start_iff.1 hoffered)

theorem candidates_direct (s : CertificateStore) (verifier : SignatureVerifier)
    (policy : CrossCertificationPolicy) :
    ∃ cs, (ChainBuilder.mk s.repository verifier policy).candidates (some anchor) [c.fingerprint]
        c = .ok cs ∧
      ∀ issuer, issuer ∈ cs ↔ MayIssue s policy c issuer ∨ StandsFor s policy c anchor issuer := by
  obtain ⟨cs, hcandidates, _, hmem⟩ :=
    candidates_of_store s verifier policy (some anchor) [c.fingerprint] c
  exact ⟨cs, hcandidates, fun issuer =>
    (hmem issuer).trans (candidate_start_iff hnamed hother)⟩

theorem exists_chooses_direct (s : CertificateStore) (verifier : SignatureVerifier)
    (policy : CrossCertificationPolicy) :
    ∃ issuer, (ChainBuilder.mk s.repository verifier policy).Chooses (some anchor) [c.fingerprint] c
      issuer := by
  obtain ⟨cs, hcandidates, hmem⟩ := candidates_direct hnamed hother s verifier policy
  obtain ⟨stand, hstands⟩ := exists_standsFor s policy c anchor
  have hstand : stand ∈ cs := (hmem stand).2 (.inr hstands)
  cases hselect : select verifier c cs with
  | none =>
      obtain rfl := select_eq_none_iff.1 hselect
      cases hstand
  | some issuer => exact ⟨issuer, cs, hcandidates, hselect⟩

/-- The first issuer is one of the candidates, and no candidate comes before it. -/
theorem best_of_chooses_direct
    (h : (ChainBuilder.mk s.repository verifier policy).Chooses (some anchor) [c.fingerprint] c
      issuer) :
    (MayIssue s policy c issuer ∨ StandsFor s policy c anchor issuer) ∧
      ∀ rival, MayIssue s policy c rival ∨ StandsFor s policy c anchor rival →
        ¬Precedes verifier c rival issuer := by
  obtain ⟨cs, hcandidates, hmem⟩ := candidates_direct hnamed hother s verifier policy
  obtain ⟨cs', hcandidates', hselect⟩ := h
  obtain rfl := Except.ok.inj (hcandidates.symm.trans hcandidates')
  refine ⟨(hmem issuer).1 (mem_of_select hselect), fun rival hrival => ?_⟩
  exact not_precedes_of_select hselect rival ((hmem rival).2 hrival)

/-- The first issuer has the fingerprint of the anchor exactly if the anchor has no rival. -/
theorem chooses_direct_iff
    (h : (ChainBuilder.mk s.repository verifier policy).Chooses (some anchor) [c.fingerprint] c
      issuer) :
    issuer.fingerprint = anchor.fingerprint ↔ Unrivalled s verifier policy c anchor := by
  obtain ⟨hcandidate, hbest⟩ := best_of_chooses_direct hnamed hother h
  constructor
  · intro heq
    have hstands : StandsFor s policy c anchor issuer :=
      hcandidate.elim (fun hoffered => .copy hoffered heq) id
    exact ⟨issuer, hstands, fun rival hoffered => hbest rival (.inl hoffered)⟩
  · rintro ⟨stand, hstands, hunrivalled⟩
    rcases hcandidate with hoffered | hchosen
    · rw [← hstands.fingerprint_eq]
      exact fingerprint_eq_of_not_precedes (hunrivalled issuer hoffered)
        (hbest stand (.inr hstands))
    · exact hchosen.fingerprint_eq

/-- A walk of one link takes the best candidate, which is the anchor. -/
theorem unrivalled_of_ascends
    (h : (ChainBuilder.mk s.repository verifier policy).Ascends (some anchor) maxDepth
      [c.fingerprint] c [issuer]) : Unrivalled s verifier policy c anchor := by
  have hend : anchor.fingerprint = issuer.fingerprint := h.endsAt_last
  cases h with
  | step _ hchooses _ => exact (chooses_direct_iff hnamed hother hchooses).1 hend.symm

theorem ascends_of_unrivalled (hself : c.isSelfIssued = false) (hdepth : 1 ≤ maxDepth)
    (h : Unrivalled s verifier policy c anchor) :
    ∃ issuer, issuer.fingerprint = anchor.fingerprint ∧
      (ChainBuilder.mk s.repository verifier policy).Ascends (some anchor) maxDepth
        [c.fingerprint] c [issuer] := by
  obtain ⟨issuer, hchooses⟩ := exists_chooses_direct hnamed hother s verifier policy
  have hend := (chooses_direct_iff hnamed hother hchooses).2 h
  have hpasses : (ChainBuilder.mk s.repository verifier policy).Passes (some anchor) c := by
    refine ⟨?_, isSelfSigned_eq_false_iff.2 (by simp [hself])⟩
    intro a ha
    obtain rfl := Option.some.inj ha
    exact hother
  obtain ⟨left, rfl⟩ := Nat.exists_eq_add_of_le' hdepth
  exact ⟨issuer, hend, .step hpasses hchooses (.ends hend.symm)⟩

end Direct

end ChainBuilder

namespace CertificateValidator

open ChainBuilder IssuerCandidates

variable {v : CertificateValidator} {dsc csca : Certificate}

theorem checkDirect_eq_ok_iff :
    v.checkDirect dsc csca = .ok () ↔
      DistinguishedName.same dsc.issuer csca.subject = true ∧
        v.verifier.certificate dsc csca = .ok true := by
  unfold checkDirect
  cases hnamed : DistinguishedName.same dsc.issuer csca.subject with
  | false => simp [throw, throwThe, MonadExceptOf.throw, bind, Except.bind]
  | true =>
      rcases hverdict : v.verifier.certificate dsc csca with e | _ | _ <;>
        simp [throw, throwThe, MonadExceptOf.throw, bind, Except.bind, pure, Except.pure]

/-- For a signer that passes the direct check, the walk to the authority ends at it within one link
exactly if the signer is the authority itself or the authority has no rival. Only what verifies
the signer too comes before the authority. -/
theorem build_direct_iff {s : CertificateStore} {lists : RevocationListRepository}
    {verifier : SignatureVerifier} {policy : ValidationPolicy} {maxDepth : Nat}
    (hdirect : (CertificateValidator.mk s.repository lists verifier policy).checkDirect dsc csca =
      .ok ())
    (hself : dsc.isSelfIssued = false) (hdepth : 1 ≤ maxDepth) :
    ((∃ chain, (ChainBuilder.mk s.repository verifier policy.crossCertification).build dsc
          (some csca) maxDepth = .ok chain ∧
        chain.anchor.fingerprint = csca.fingerprint ∧ chain.hops ≤ 1) ↔
      dsc.fingerprint = csca.fingerprint ∨
        Unrivalled s verifier policy.crossCertification dsc csca) ∧
      ∀ rival, Precedes verifier dsc rival csca → verifier.certificate dsc rival = .ok true := by
  obtain ⟨hissuer, hverifies⟩ := checkDirect_eq_ok_iff.1 hdirect
  have hnamed : DistinguishedName.same csca.subject dsc.issuer = true :=
    (DistinguishedName.same_comm ..).trans hissuer
  refine ⟨?_, fun rival hprecedes => hprecedes.verifies hverifies⟩
  -- A walk from the authority itself ends before it looks for an issuer.
  by_cases hsame : dsc.fingerprint = csca.fingerprint
  · refine iff_of_true ?_ (.inl hsame)
    exact ⟨⟨dsc, []⟩, build_eq_ok_iff.2 ⟨rfl, .ends (Eq.symm hsame)⟩, hsame, Nat.zero_le 1⟩
  · rw [or_iff_right hsame]
    constructor
    · rintro ⟨⟨endEntity, issuers⟩, hbuild, hanchor, hhops⟩
      obtain ⟨rfl, hascends⟩ := build_eq_ok_iff.1 hbuild
      rcases issuers with _ | ⟨issuer, _ | ⟨second, rest⟩⟩
      · exact absurd hanchor hsame
      · exact unrivalled_of_ascends hnamed (Ne.symm hsame) hascends
      · simp [TrustChain.hops] at hhops
    · intro hunrivalled
      obtain ⟨issuer, hend, hascends⟩ :=
        ascends_of_unrivalled hnamed (Ne.symm hsame) hself hdepth hunrivalled
      exact ⟨⟨dsc, [issuer]⟩, build_eq_ok_iff.2 ⟨rfl, hascends⟩, hend, Nat.le_refl 1⟩

end CertificateValidator

namespace Specimen

/-- The root once more, under the same name and for a later time. -/
def reissued : Certificate := { root with fingerprint := "CN=Root/2", notBefore := 5 }

/-- A signer of which both generations of the root might be the issuer. -/
def youngSigner : Certificate := { certificate .dsc "CN=Young" "CN=Root" with notBefore := 10 }

/-- Accepts every signature by a certificate of the name that is stated as issuer. -/
def sharedKeyVerifier : SignatureVerifier where
  certificate child parent := .ok (child.issuer == parent.subject)
  content _ _ _ _ := .ok true

def bothRoots : CertificateStore := .ofList [root, reissued]

theorem youngSigner_build_reissued :
    ((∃ chain, (ChainBuilder.mk bothRoots.repository sharedKeyVerifier {}).build youngSigner
          (some reissued) 1 = .ok chain ∧
        chain.anchor.fingerprint = reissued.fingerprint ∧ chain.hops ≤ 1) ↔
      youngSigner.fingerprint = reissued.fingerprint ∨
        ChainBuilder.Unrivalled bothRoots sharedKeyVerifier {} youngSigner reissued) ∧
      (∀ rival, IssuerCandidates.Precedes sharedKeyVerifier youngSigner rival reissued →
        sharedKeyVerifier.certificate youngSigner rival = .ok true) ∧
      (ChainBuilder.mk bothRoots.repository sharedKeyVerifier {}).build youngSigner
        (some reissued) 1 = .ok ⟨youngSigner, [reissued]⟩ := by
  have hdirect : (CertificateValidator.mk bothRoots.repository RevocationListStore.empty.repository
      sharedKeyVerifier {}).checkDirect youngSigner reissued = .ok () := by
    with_unfolding_all rfl
  have hself : youngSigner.isSelfIssued = false := by with_unfolding_all rfl
  have hbuild : (ChainBuilder.mk bothRoots.repository sharedKeyVerifier {}).build youngSigner
      (some reissued) 1 = .ok ⟨youngSigner, [reissued]⟩ := by with_unfolding_all rfl
  obtain ⟨hiff, hrivals⟩ := CertificateValidator.build_direct_iff hdirect hself (Nat.le_refl 1)
  exact ⟨hiff, hrivals, hbuild⟩

/-- The signer passes the direct check against the first root, but the walk goes to the second. -/
theorem youngSigner_build_root :
    (CertificateValidator.mk bothRoots.repository RevocationListStore.empty.repository
        sharedKeyVerifier {}).checkDirect youngSigner root = .ok () ∧
      youngSigner.isSelfIssued = false ∧
      (ChainBuilder.mk bothRoots.repository sharedKeyVerifier {}).build youngSigner (some root) 5 =
        .error (.invalid (ChainBuilder.wrongRoot youngSigner reissued root)) := by
  refine ⟨?_, ?_, ?_⟩ <;> with_unfolding_all rfl

end Specimen

end Mrtd
