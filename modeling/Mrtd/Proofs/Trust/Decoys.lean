import Mrtd.Proofs.Trust.Candidates

/-!
Certificates that are put into a store to mislead a walk. A verdict on the signature comes before
everything else in the ranking, so a certificate under which nothing of a chain verifies does not
displace an issuer under which its child does, whatever its name, its validity or its fingerprint. A
chain whose links all verify is therefore found again, step by step, among any such certificates.
-/

namespace Mrtd

namespace CertificateStore

/-- A store holds what another holds, and apart from it only decoys. -/
structure Hides (t s : CertificateStore) (decoys : List Certificate) : Prop where
  subset : s.certificates ⊆ t.certificates
  other : ∀ c ∈ t.certificates, c ∈ s.certificates ∨ c ∈ decoys

/-- Decoys whose fingerprints are new do not keep anything else out of a store. -/
theorem hides_ofList {kept decoys inserted : List Certificate}
    (hdistinct : (kept.map (·.fingerprint)).Nodup) (hinserted : inserted.Perm (kept ++ decoys))
    (hnew : ∀ decoy ∈ decoys, decoy.fingerprint ∉ kept.map (·.fingerprint)) :
    (ofList inserted).Hides (ofList kept) decoys := by
  have hheld : ∀ c ∈ kept, c ∈ (ofList kept).certificates := by
    intro c hc
    exact mem_ofList_of_unique hc fun other hother => List.inj_on_of_nodup_map hdistinct hother hc
  constructor
  · intro c hc
    have hkept := mem_of_mem_ofList hc
    apply mem_ofList_of_unique (hinserted.mem_iff.2 (List.mem_append_left _ hkept))
    intro other hother heq
    rcases List.mem_append.1 (hinserted.mem_iff.1 hother) with hother | hdecoy
    · exact List.inj_on_of_nodup_map hdistinct hother hkept heq
    · exact absurd (heq ▸ List.mem_map_of_mem hkept) (hnew other hdecoy)
  · intro c hc
    exact (List.mem_append.1 (hinserted.mem_iff.1 (mem_of_mem_ofList hc))).imp_left (hheld c)

end CertificateStore

namespace ChainBuilder

open IssuerCandidates

variable {s t : CertificateStore} {verifier : SignatureVerifier}
  {policy : CrossCertificationPolicy} {anchor : Option Certificate} {decoys : List Certificate}
  {left : Nat} {path : List String} {current issuer : Certificate} {issuers : List Certificate}

section Step

variable (hhides : t.Hides s decoys)
  (hanchor : ∀ decoy ∈ decoys, ∀ a ∈ anchor, decoy.fingerprint ≠ a.fingerprint)

include hhides

theorem Candidate.cases_of_hides (h : Candidate t policy anchor path current issuer) :
    Candidate s policy anchor path current issuer ∨ issuer ∈ decoys := by
  cases h with
  | offered hoffered =>
      obtain ⟨hheld, hnamed, hallowed, hfresh⟩ := hoffered
      exact (hhides.other issuer hheld).imp_left fun hheld =>
        .offered ⟨hheld, hnamed, hallowed, hfresh⟩
  | anchor ha hnamed hfresh hnone =>
      refine .inl (.anchor ha hnamed hfresh fun other hother => ?_)
      exact hnone other (hother.mono hhides.subset)

include hanchor

/-- The decoys join the candidates, and none of the others leaves. -/
theorem Candidate.of_hides (h : Candidate s policy anchor path current issuer) :
    Candidate t policy anchor path current issuer := by
  refine h.mono hhides.subset fun a ha copy hcopy heq => ?_
  rcases hhides.other copy hcopy with hheld | hdecoy
  · exact hheld
  · exact absurd heq (hanchor copy hdecoy a ha)

variable (hs : (s.certificates.map (·.fingerprint)).Nodup)
  (ht : (t.certificates.map (·.fingerprint)).Nodup)

include hs ht

/-- An issuer under which its child verifies is chosen among decoys under which it does not. -/
theorem Chooses.of_hides
    (h : (ChainBuilder.mk s.repository verifier policy).Chooses anchor path current issuer)
    (hverified : verifier.certificate current issuer = .ok true)
    (hrejected : ∀ decoy ∈ decoys, verifier.certificate current decoy ≠ .ok true) :
    (ChainBuilder.mk t.repository verifier policy).Chooses anchor path current issuer := by
  obtain ⟨hcandidate, hbest⟩ := (chooses_iff hs).1 h
  refine (chooses_iff ht).2 ⟨hcandidate.of_hides hhides hanchor, fun rival hrival hprecedes => ?_⟩
  -- Only what verifies the child comes before an issuer that does.
  rcases hrival.cases_of_hides hhides with hrival | hdecoy
  · exact hbest rival hrival hprecedes
  · exact hrejected rival hdecoy (hprecedes.verifies hverified)

/-- A walk along links that verify goes the same way among the decoys. -/
theorem Ascends.of_hides
    (h : (ChainBuilder.mk s.repository verifier policy).Ascends anchor left path current issuers)
    (hverified : ∀ link ∈ (current :: issuers).zip issuers,
      verifier.certificate link.1 link.2 = .ok true)
    (hrejected : ∀ decoy ∈ decoys, ∀ child ∈ current :: issuers,
      verifier.certificate child decoy ≠ .ok true) :
    (ChainBuilder.mk t.repository verifier policy).Ascends anchor left path current issuers := by
  induction h with
  | ends hends => exact .ends hends
  | @step _ path current issuer issuers hpasses hchooses _ ih =>
      have hlink : verifier.certificate current issuer = .ok true :=
        hverified (current, issuer) List.mem_cons_self
      have hchosen := hchooses.of_hides hhides hanchor hs ht hlink fun decoy hdecoy =>
        hrejected decoy hdecoy current List.mem_cons_self
      refine .step ⟨hpasses.not_anchor, hpasses.not_selfSigned⟩ hchosen (ih ?_ ?_)
      · intro link hlink
        exact hverified link (List.mem_cons_of_mem _ hlink)
      · intro decoy hdecoy child hchild
        exact hrejected decoy hdecoy child (List.mem_cons_of_mem _ hchild)

end Step

/-- A chain whose links all verify is built again from a store that also holds decoys: certificates
with new fingerprints under which no certificate of the chain verifies. -/
theorem build_amid_decoys {kept decoys inserted : List Certificate} {c : Certificate}
    {maxDepth : Nat} {chain : TrustChain} (hdistinct : (kept.map (·.fingerprint)).Nodup)
    (hinserted : inserted.Perm (kept ++ decoys))
    (hnew : ∀ decoy ∈ decoys, decoy.fingerprint ∉ kept.map (·.fingerprint) ∧
      ∀ a ∈ anchor, decoy.fingerprint ≠ a.fingerprint)
    (h : (ChainBuilder.mk (CertificateStore.ofList kept).repository verifier policy).build c anchor
      maxDepth = .ok chain)
    (hverified : ∀ link ∈ chain.links, verifier.certificate link.1 link.2 = .ok true)
    (hrejected : ∀ decoy ∈ decoys, ∀ child ∈ chain.certificates,
      verifier.certificate child decoy ≠ .ok true) :
    (ChainBuilder.mk (CertificateStore.ofList inserted).repository verifier policy).build c anchor
      maxDepth = .ok chain := by
  obtain ⟨rfl, hascends⟩ := build_eq_ok_iff.1 h
  have hhides := CertificateStore.hides_ofList hdistinct hinserted fun decoy hdecoy =>
    (hnew decoy hdecoy).1
  have hanchor : ∀ decoy ∈ decoys, ∀ a ∈ anchor, decoy.fingerprint ≠ a.fingerprint :=
    fun decoy hdecoy => (hnew decoy hdecoy).2
  exact build_eq_ok_iff.2 ⟨rfl, hascends.of_hides hhides hanchor (CertificateStore.nodup_ofList _)
    (CertificateStore.nodup_ofList _) hverified hrejected⟩

end ChainBuilder

namespace Specimen

/-- Bears the name of the successor and ranks before it in all but the signature. -/
def decoy : Certificate := { successor with fingerprint := "CN=Decoy" }

theorem signer_build_amid_decoy :
    IssuerCandidates.select verifier signer [decoy, successor] = some successor ∧
      rankIssuers signer (true, decoy) (true, successor) = .lt ∧
      (ChainBuilder.mk (CertificateStore.ofList [decoy, signer, successor, root]).repository
        verifier {}).build signer (some root) 2 = .ok ⟨signer, [successor, root]⟩ := by
  refine ⟨by with_unfolding_all rfl, by decide, ?_⟩
  have hinserted : [decoy, signer, successor, root].Perm ([signer, successor, root] ++ [decoy]) :=
    (List.perm_append_singleton decoy _).symm
  have hbuild : (ChainBuilder.mk (CertificateStore.ofList [signer, successor, root]).repository
      verifier {}).build signer (some root) 2 = .ok ⟨signer, [successor, root]⟩ := by
    with_unfolding_all rfl
  refine ChainBuilder.build_amid_decoys (by decide) hinserted (by decide) hbuild ?_ ?_
  · decide
  · decide

end Specimen

end Mrtd
