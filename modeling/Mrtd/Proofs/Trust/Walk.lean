import Mathlib.Data.List.Nodup
import Mrtd.Trust.Chain

/-!
Walks that succeed. `Ascends` is what a walk does when it succeeds: it passes certificates that are
neither the anchor nor self-signed, goes on from each to the best candidate for its issuer, and ends
at the anchor, or without an anchor at a self-signed certificate. A walk yields some issuers exactly
if it ascends through them, so whatever holds of each step holds along every chain that is built.
-/

namespace Mrtd

namespace CertificateStore

variable {s : CertificateStore}

theorem findBySubject_repository (subject : String) :
    s.repository.findBySubject subject = .ok (s.findBySubject subject) := rfl

theorem mem_findBySubject {subject : String} {c : Certificate} :
    c ∈ s.findBySubject subject ↔
      c ∈ s.certificates ∧ DistinguishedName.same c.subject subject = true := by
  simp [findBySubject]

end CertificateStore

theorem IssuerCandidates.mem_of_select {verifier : SignatureVerifier} {child c : Certificate}
    {candidates : List Certificate} (h : select verifier child candidates = some c) :
    c ∈ candidates := by
  obtain ⟨⟨verdict, _⟩, hbest, rfl⟩ := Option.map_eq_some_iff.1 h
  obtain ⟨member, hmember, hpair⟩ := List.mem_map.1 (mem_of_best? hbest)
  obtain ⟨_, rfl⟩ := Prod.mk.inj hpair
  exact hmember

namespace TrustChain

/-- The children of the links are all certificates but the last. -/
theorem map_fst_links (chain : TrustChain) :
    chain.links.map Prod.fst = chain.certificates.dropLast := by
  obtain ⟨endEntity, issuers⟩ := chain
  simp only [links, certificates]
  induction issuers generalizing endEntity with
  | nil => rfl
  | cons issuer rest ih => simp [ih issuer]

theorem child_mem_certificates {chain : TrustChain} {link : Certificate × Certificate}
    (h : link ∈ chain.links) : link.1 ∈ chain.certificates := by
  have hchild : link.1 ∈ chain.links.map Prod.fst := List.mem_map_of_mem h
  rw [map_fst_links] at hchild
  exact List.dropLast_subset _ hchild

theorem parent_mem_issuers {chain : TrustChain} {link : Certificate × Certificate}
    (h : link ∈ chain.links) : link.2 ∈ chain.issuers := by
  rw [← map_snd_links]
  exact List.mem_map_of_mem h

end TrustChain

namespace ChainBuilder

variable {b : ChainBuilder} {c : Certificate} {anchor : Option Certificate} {maxDepth left : Nat}
  {path : List String} {current issuer : Certificate} {issuers : List Certificate}

/-- A walk ends well at a certificate: it is the anchor, or no anchor is asked for and it is
self-signed. -/
def EndsAt (b : ChainBuilder) (anchor : Option Certificate) (current : Certificate) : Prop :=
  match anchor with
  | some a => a.fingerprint = current.fingerprint
  | none => b.isSelfSigned current = .ok true

/-- A walk goes on above a certificate: it is not the anchor and not self-signed. -/
structure Passes (b : ChainBuilder) (anchor : Option Certificate) (current : Certificate) :
    Prop where
  not_anchor : ∀ a ∈ anchor, a.fingerprint ≠ current.fingerprint
  not_selfSigned : b.isSelfSigned current = .ok false

/-- A walk that has met `path` chooses the issuer of a certificate. -/
def Chooses (b : ChainBuilder) (anchor : Option Certificate) (path : List String)
    (current issuer : Certificate) : Prop :=
  ∃ cs, b.candidates anchor path current = .ok cs ∧
    IssuerCandidates.select b.verifier current cs = some issuer

/-- A walk that may still take `left` links ascends from a certificate through some issuers. -/
inductive Ascends (b : ChainBuilder) (anchor : Option Certificate) :
    Nat → List String → Certificate → List Certificate → Prop
  | ends {left : Nat} {path : List String} {current : Certificate} :
      b.EndsAt anchor current → b.Ascends anchor left path current []
  | step {left : Nat} {path : List String} {current issuer : Certificate}
      {issuers : List Certificate} :
      b.Passes anchor current → b.Chooses anchor path current issuer →
        b.Ascends anchor left (issuer.fingerprint :: path) issuer issuers →
          b.Ascends anchor (left + 1) path current (issuer :: issuers)

theorem atEnd_eq_true_iff : b.atEnd c anchor current = .ok true ↔ b.EndsAt anchor current := by
  cases anchor with
  | none =>
      change b.atEnd c none current = .ok true ↔ b.isSelfSigned current = .ok true
      rcases hself : b.isSelfSigned current with e | _ | _ <;> simp [atEnd, hself]
  | some a =>
      change b.atEnd c (some a) current = .ok true ↔ a.fingerprint = current.fingerprint
      by_cases hanchor : a.fingerprint = current.fingerprint
      · simp [atEnd, hanchor]
      · rcases hself : b.isSelfSigned current with e | _ | _ <;> simp [atEnd, hanchor, hself]

theorem atEnd_eq_false_iff : b.atEnd c anchor current = .ok false ↔ b.Passes anchor current := by
  constructor
  · intro h
    cases anchor with
    | none =>
        rcases hself : b.isSelfSigned current with e | _ | _ <;> simp [atEnd, hself] at h
        exact ⟨by simp, hself⟩
    | some a =>
        by_cases hanchor : a.fingerprint = current.fingerprint
        · simp [atEnd, hanchor] at h
        · rcases hself : b.isSelfSigned current with e | _ | _ <;>
            simp [atEnd, hanchor, hself] at h
          exact ⟨by simpa using hanchor, hself⟩
  · rintro ⟨hanchor, hself⟩
    have hother : anchor.any (·.fingerprint == current.fingerprint) = false := by
      simpa [Option.any_eq_false] using hanchor
    simp [atEnd, hother, hself]

theorem next_eq_ok_iff :
    b.next c anchor path current = .ok issuer ↔ b.Chooses anchor path current issuer := by
  simp only [next, bind_eq_ok_iff, mapError_eq_ok_iff, Chooses]
  refine exists_congr fun cs => and_congr_right fun _ => ?_
  cases IssuerCandidates.select b.verifier current cs <;>
    simp [pure, Except.pure, throw, throwThe, MonadExceptOf.throw]

/-- A walk yields some issuers exactly if it ascends through them. -/
theorem walk_eq_ok_iff :
    b.walk c anchor maxDepth left path current = .ok issuers ↔
      b.Ascends anchor left path current issuers := by
  constructor
  · -- The walk recurses on the links left, with the path and the certificate changing.
    intro hwalk
    induction left generalizing path current issuers with
    | zero =>
        obtain ⟨ends, hatEnd, hrest⟩ := bind_eq_ok_iff.1 hwalk
        cases ends with
        | true =>
            obtain rfl := Except.ok.inj hrest
            exact .ends (atEnd_eq_true_iff.1 hatEnd)
        | false => cases hrest
    | succ left ih =>
        obtain ⟨ends, hatEnd, hrest⟩ := bind_eq_ok_iff.1 hwalk
        cases ends with
        | true =>
            obtain rfl := Except.ok.inj hrest
            exact .ends (atEnd_eq_true_iff.1 hatEnd)
        | false =>
            obtain ⟨issuer, hnext, hrest⟩ := bind_eq_ok_iff.1 hrest
            obtain ⟨rest, habove, hissuers⟩ := bind_eq_ok_iff.1 hrest
            obtain rfl := Except.ok.inj hissuers
            exact .step (atEnd_eq_false_iff.1 hatEnd) (next_eq_ok_iff.1 hnext) (ih habove)
  · intro hascends
    induction hascends with
    | @ends left path current hends =>
        have hatEnd := (atEnd_eq_true_iff (c := c)).2 hends
        cases left with
        | zero => exact bind_eq_ok_iff.2 ⟨true, hatEnd, rfl⟩
        | succ left => exact bind_eq_ok_iff.2 ⟨true, hatEnd, rfl⟩
    | step hpasses hchooses _ ih =>
        refine bind_eq_ok_iff.2 ⟨false, atEnd_eq_false_iff.2 hpasses, ?_⟩
        refine bind_eq_ok_iff.2 ⟨_, next_eq_ok_iff.2 hchooses, ?_⟩
        exact bind_eq_ok_iff.2 ⟨_, ih, rfl⟩

theorem build_eq_ok_iff {chain : TrustChain} :
    b.build c anchor maxDepth = .ok chain ↔
      chain.endEntity = c ∧ b.Ascends anchor maxDepth [c.fingerprint] c chain.issuers := by
  constructor
  · intro h
    cases hwalk : b.walk c anchor maxDepth maxDepth [c.fingerprint] c with
    | error e => simp [build, hwalk, Except.map] at h
    | ok issuers =>
        obtain rfl : ⟨c, issuers⟩ = chain := by simpa [build, hwalk, Except.map] using h
        exact ⟨rfl, walk_eq_ok_iff.1 hwalk⟩
  · rintro ⟨rfl, hascends⟩
    simp [build, walk_eq_ok_iff.2 hascends, Except.map]

theorem mem_eligible {found : List Certificate} :
    c ∈ b.eligible path found ↔
      c ∈ found ∧ b.policy.allowsIssuer c.type = true ∧ c.fingerprint ∉ path := by
  simp [eligible, List.mem_filter]

theorem candidates_of_found {found : List Certificate}
    (h : b.certificates.findBySubject current.issuer = .ok found) :
    b.candidates anchor path current =
      .ok (b.eligible path found ++ (anchor.filter (b.anchorJoins path current found)).toList) := by
  rw [candidates, h]
  rfl

/-- The candidates come from the repository, where their role lets them issue, or are the anchor. -/
theorem mem_candidates {cs : List Certificate} (h : b.candidates anchor path current = .ok cs)
    (hmem : issuer ∈ cs) :
    issuer.fingerprint ∉ path ∧
      ((∃ found, b.certificates.findBySubject current.issuer = .ok found ∧ issuer ∈ found ∧
          b.policy.allowsIssuer issuer.type = true) ∨
        issuer ∈ anchor ∧ DistinguishedName.same issuer.subject current.issuer = true) := by
  cases hfound : b.certificates.findBySubject current.issuer with
  | error e => simp [candidates, hfound, Except.map] at h
  | ok found =>
      obtain rfl := Except.ok.inj ((candidates_of_found hfound).symm.trans h)
      rcases List.mem_append.1 hmem with heligible | hanchor
      · obtain ⟨hissuer, hallowed, hfresh⟩ := mem_eligible.1 heligible
        exact ⟨hfresh, .inl ⟨found, rfl, hissuer, hallowed⟩⟩
      · obtain ⟨hissuer, hjoins⟩ := Option.filter_eq_some_iff.1 (Option.mem_toList.1 hanchor)
        simp only [anchorJoins, Bool.and_eq_true] at hjoins
        obtain ⟨⟨hname, hfresh⟩, _⟩ := hjoins
        exact ⟨by simpa using hfresh, .inr ⟨hissuer, hname⟩⟩

/-- What is chosen is one of the candidates. -/
theorem Chooses.mem_candidates (h : b.Chooses anchor path current issuer) :
    ∃ cs, b.candidates anchor path current = .ok cs ∧ issuer ∈ cs := by
  obtain ⟨cs, hcandidates, hselect⟩ := h
  exact ⟨cs, hcandidates, IssuerCandidates.mem_of_select hselect⟩

theorem Chooses.not_mem_path (h : b.Chooses anchor path current issuer) :
    issuer.fingerprint ∉ path := by
  obtain ⟨cs, hcandidates, hmem⟩ := h.mem_candidates
  exact (ChainBuilder.mem_candidates hcandidates hmem).1

namespace Ascends

variable (h : b.Ascends anchor left path current issuers)

include h

theorem length_le : issuers.length ≤ left := by
  induction h with
  | ends _ => exact Nat.zero_le _
  | step _ _ _ ih => exact Nat.succ_le_succ ih

/-- No fingerprint is met twice, and none that was met before. The second part carries the first
through the induction, as each step adds its issuer to the path. -/
theorem nodup : (issuers.map (·.fingerprint)).Nodup ∧ ∀ c ∈ issuers, c.fingerprint ∉ path := by
  induction h with
  | ends _ => simp
  | @step _ path _ issuer issuers _ hchooses _ ih =>
      obtain ⟨hnodup, hfresh⟩ := ih
      have hissuer : issuer.fingerprint ∉ issuers.map (·.fingerprint) := by
        intro hmem
        obtain ⟨c, hc, heq⟩ := List.mem_map.1 hmem
        exact hfresh c hc (heq ▸ List.mem_cons_self)
      refine ⟨List.nodup_cons.2 ⟨hissuer, hnodup⟩, fun c hc => ?_⟩
      rcases List.mem_cons.1 hc with rfl | hc
      · exact hchooses.not_mem_path
      · exact fun hmem => hfresh c hc (List.mem_cons_of_mem _ hmem)

/-- Every link is a step: the walk went on above the child and chose the parent. -/
theorem step_of_mem_links : ∀ link ∈ (current :: issuers).zip issuers,
    b.Passes anchor link.1 ∧ ∃ met, b.Chooses anchor met link.1 link.2 := by
  induction h with
  | ends _ => simp
  | @step _ path current issuer issuers hpasses hchooses _ ih =>
      intro link hlink
      rw [List.zip_cons_cons, List.mem_cons] at hlink
      rcases hlink with rfl | hlink
      · exact ⟨hpasses, path, hchooses⟩
      · exact ih link hlink

/-- The walk ends at the last certificate. -/
theorem endsAt_last : b.EndsAt anchor (issuers.getLastD current) := by
  induction h with
  | ends hends => exact hends
  | step _ _ _ ih => rwa [List.getLastD_cons]

end Ascends

theorem isSelfSigned_eq_true_iff :
    b.isSelfSigned c = .ok true ↔
      c.isSelfIssued = true ∧ b.verifier.certificate c c = .ok true := by
  unfold isSelfSigned
  split <;> simp_all

theorem isSelfSigned_eq_false_iff :
    b.isSelfSigned c = .ok false ↔
      (c.isSelfIssued = true → b.verifier.certificate c c = .ok false) := by
  unfold isSelfSigned
  split <;> simp_all

/-- Over a store, what is chosen bears the name of the issuer, and is a certificate of the store
whose role may issue, or the anchor. -/
theorem Chooses.of_store {s : CertificateStore} (hstore : b.certificates = s.repository)
    (h : b.Chooses anchor path current issuer) :
    DistinguishedName.same current.issuer issuer.subject = true ∧
      (issuer ∈ s.certificates ∧ b.policy.allowsIssuer issuer.type = true ∨ issuer ∈ anchor) := by
  obtain ⟨cs, hcandidates, hmem⟩ := h.mem_candidates
  rw [DistinguishedName.same_comm]
  rcases (ChainBuilder.mem_candidates hcandidates hmem).2 with
    ⟨found, hfound, hissuer, hallowed⟩ | ⟨hanchor, hname⟩
  · rw [hstore, CertificateStore.findBySubject_repository] at hfound
    obtain rfl := Except.ok.inj hfound
    obtain ⟨hheld, hname⟩ := CertificateStore.mem_findBySubject.1 hissuer
    exact ⟨hname, .inl ⟨hheld, hallowed⟩⟩
  · exact ⟨hname, .inr hanchor⟩

end ChainBuilder

theorem CrossCertificationPolicy.allowsIssuer_iff {policy : CrossCertificationPolicy}
    {type : CertificateType} :
    policy.allowsIssuer type = true ↔
      type = .csca ∨ (type = .dsc ∨ type = .dscNc) ∧ policy.allowDscIssuers = true ∨
        type = .mlsc ∧ policy.allowMlscIssuers = true := by
  cases type <;> simp [allowsIssuer]

/-- What a chain is that leads from a certificate to an anchor, or to a root where no anchor is
given, over a store. -/
structure TrustChain.Leads (chain : TrustChain) (s : CertificateStore)
    (verifier : SignatureVerifier) (policy : CrossCertificationPolicy) (c : Certificate)
    (anchor : Option Certificate) (maxDepth : Nat) : Prop where
  starts : chain.certificates.head? = some c
  distinct : (chain.certificates.map (·.fingerprint)).Nodup
  hops_le : chain.hops ≤ maxDepth
  named : ∀ link ∈ chain.links, DistinguishedName.same link.1.issuer link.2.subject = true
  /-- Issuers are certificates of the store in a role that may issue, or the anchor itself. -/
  issuing : ∀ issuer ∈ chain.issuers,
    (issuer ∈ s.certificates ∧
      (issuer.type = .csca ∨
        (issuer.type = .dsc ∨ issuer.type = .dscNc) ∧ policy.allowDscIssuers = true ∨
        issuer.type = .mlsc ∧ policy.allowMlscIssuers = true)) ∨ anchor = some issuer
  reaches_anchor : ∀ a ∈ anchor, chain.anchor.fingerprint = a.fingerprint
  reaches_root : anchor = none →
    chain.anchor.isSelfIssued = true ∧
      verifier.certificate chain.anchor chain.anchor = .ok true
  /-- Before the last certificate there is neither the anchor nor a root. -/
  no_earlier_end : ∀ earlier ∈ chain.certificates.dropLast,
    (∀ a ∈ anchor, earlier.fingerprint ≠ a.fingerprint) ∧
      (earlier.isSelfIssued = true → verifier.certificate earlier earlier = .ok false)

namespace TrustChain.Leads

variable {chain : TrustChain} {s : CertificateStore} {verifier : SignatureVerifier}
  {policy : CrossCertificationPolicy} {c : Certificate} {anchor : Option Certificate}
  {maxDepth : Nat} {link : Certificate × Certificate}

theorem endEntity_eq (h : chain.Leads s verifier policy c anchor maxDepth) : chain.endEntity = c :=
  Option.some.inj h.starts

/-- The only child with the fingerprint of the certificate is the certificate. -/
theorem child_eq (h : chain.Leads s verifier policy c anchor maxDepth) (hlink : link ∈ chain.links)
    (heq : link.1.fingerprint = c.fingerprint) : link.1 = c := by
  have hstart : c ∈ chain.certificates := List.mem_of_mem_head? h.starts
  exact List.inj_on_of_nodup_map h.distinct (child_mem_certificates hlink) hstart heq

end TrustChain.Leads

namespace ChainBuilder

/-- A walk over a store ascends along a chain that leads from its start to the anchor or root. -/
theorem Ascends.leads {s : CertificateStore} {verifier : SignatureVerifier}
    {policy : CrossCertificationPolicy} {c : Certificate} {anchor : Option Certificate}
    {maxDepth : Nat} {issuers : List Certificate}
    (h : (ChainBuilder.mk s.repository verifier policy).Ascends anchor maxDepth [c.fingerprint] c
      issuers) :
    TrustChain.Leads ⟨c, issuers⟩ s verifier policy c anchor maxDepth := by
  obtain ⟨hnodup, hfresh⟩ := h.nodup
  have hends := h.endsAt_last
  have hlinks := h.step_of_mem_links
  refine ⟨rfl, ?_, h.length_le, ?_, ?_, ?_, ?_, ?_⟩
  · refine List.nodup_cons.2 ⟨fun hmem => ?_, hnodup⟩
    obtain ⟨issuer, hissuer, heq⟩ := List.mem_map.1 hmem
    exact hfresh issuer hissuer (heq ▸ List.mem_singleton_self _)
  · intro link hlink
    obtain ⟨_, met, hchooses⟩ := hlinks link hlink
    exact (hchooses.of_store rfl).1
  · intro issuer hissuer
    rw [← TrustChain.map_snd_links ⟨c, issuers⟩] at hissuer
    obtain ⟨link, hlink, rfl⟩ := List.mem_map.1 hissuer
    obtain ⟨_, met, hchooses⟩ := hlinks link hlink
    rcases (hchooses.of_store rfl).2 with ⟨hheld, hallowed⟩ | hanchor
    · exact .inl ⟨hheld, CrossCertificationPolicy.allowsIssuer_iff.1 hallowed⟩
    · exact .inr hanchor
  · rintro a rfl
    exact Eq.symm hends
  · rintro rfl
    exact isSelfSigned_eq_true_iff.1 hends
  · intro earlier hearlier
    rw [← TrustChain.map_fst_links] at hearlier
    obtain ⟨link, hlink, rfl⟩ := List.mem_map.1 hearlier
    obtain ⟨hpasses, _⟩ := hlinks link hlink
    exact ⟨fun a ha heq => hpasses.not_anchor a ha heq.symm,
      isSelfSigned_eq_false_iff.1 hpasses.not_selfSigned⟩

/-- Every chain that is built over a store leads from the certificate to its anchor or root. -/
theorem build_leads {s : CertificateStore} {verifier : SignatureVerifier}
    {policy : CrossCertificationPolicy} {c : Certificate} {anchor : Option Certificate}
    {maxDepth : Nat} {chain : TrustChain}
    (h : (ChainBuilder.mk s.repository verifier policy).build c anchor maxDepth = .ok chain) :
    chain.Leads s verifier policy c anchor maxDepth := by
  obtain ⟨rfl, hascends⟩ := build_eq_ok_iff.1 h
  exact hascends.leads

end ChainBuilder

namespace Specimen

/-- A certificate of which only the role and the names matter; its fingerprint is its subject. -/
def certificate (type : CertificateType) (subject issuer : String) : Certificate where
  fingerprint := subject
  der := []
  type := type
  subject := subject
  issuer := issuer
  serial := "51"
  country := some "KR"
  notBefore := 0
  notAfter := 100
  publicKey := ⟨.ed25519, [], []⟩
  basicConstraints := some ⟨type.isAuthority, none⟩
  keyUsage := some ⟨!type.isAuthority, false, type.isAuthority, type.isAuthority⟩
  subjectKeyId := none
  uploadId := none
  storedInLdap := false

def root : Certificate := certificate .csca "CN=Root" "CN=Root"

/-- A second generation of the authority, certified by the first. -/
def successor : Certificate := certificate .csca "CN=Successor" "cn=ROOT"

def signer : Certificate := certificate .dsc "CN=Signer" "CN = successor"

def store : CertificateStore := .ofList [signer, successor, root]

/-- Accepts the signatures along the one chain of the store. -/
def verifier : SignatureVerifier where
  certificate child parent := .ok <|
    [(signer, successor), (successor, root), (root, root)].any fun (c, p) =>
      c.fingerprint == child.fingerprint && p.fingerprint == parent.fingerprint
  content _ _ _ _ := .ok true

/-- Two links, on which the spelling of the names differs. -/
theorem signer_leads :
    (ChainBuilder.mk store.repository verifier {}).build signer none 2 =
        .ok ⟨signer, [successor, root]⟩ ∧
      TrustChain.Leads ⟨signer, [successor, root]⟩ store verifier {} signer none 2 :=
  ⟨by with_unfolding_all rfl, ChainBuilder.build_leads (by with_unfolding_all rfl)⟩

end Specimen

end Mrtd
