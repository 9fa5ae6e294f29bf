import Mrtd.Proofs.Trust.Decoys

/-!
Paths that a walk is sure to find. A walk takes one issuer at a time and never turns back, so it may
miss a path that is there. It follows one along which every certificate verifies under a single
contender for its issuer: the verdict on the signature comes before everything else in the ranking,
so whatever else bears the name loses. Certificates are told apart by their fingerprints. An anchor
that the store offers too is no candidate besides its record, so the walk ends at that record; it
gets there if the record comes before every other candidate, as it does when it verifies.
-/

namespace Mrtd

namespace IssuerCandidates

theorem not_precedes_self {verifier : SignatureVerifier} {child x : Certificate} :
    ¬Precedes verifier child x x := by
  intro h
  have heq : rankIssuers child (verdict verifier child x, x) (verdict verifier child x, x) = .eq :=
    Std.ReflCmp.compare_self
  cases heq.symm.trans h

end IssuerCandidates

namespace ChainBuilder

open IssuerCandidates

/-- A certificate that may be taken for the issuer of another once some fingerprints were met: it
bears the name, and it is held in a role that may issue or is the anchor. -/
structure Contender (s : CertificateStore) (policy : CrossCertificationPolicy)
    (anchor : Option Certificate) (met : List String) (current issuer : Certificate) : Prop where
  known : issuer ∈ s.certificates ∧ policy.allowsIssuer issuer.type = true ∨ issuer ∈ anchor
  named : DistinguishedName.same issuer.subject current.issuer = true
  fresh : issuer.fingerprint ∉ met

/-- A certificate verifies under one contender for its issuer and under none of another
fingerprint. -/
structure SoleIssuer (s : CertificateStore) (verifier : SignatureVerifier)
    (policy : CrossCertificationPolicy) (anchor : Option Certificate) (met : List String)
    (current issuer : Certificate) : Prop where
  contends : Contender s policy anchor met current issuer
  verifies : verifier.certificate current issuer = .ok true
  rejects : ∀ other, Contender s policy anchor met current other →
    other.fingerprint ≠ issuer.fingerprint → verifier.certificate current other ≠ .ok true

/-- A path that leaves a walk no choice. Every certificate but the last is neither the anchor nor
self-signed, and its sole issuer comes next; the last one is where walks end. -/
structure Unambiguous (s : CertificateStore) (verifier : SignatureVerifier)
    (policy : CrossCertificationPolicy) (anchor : Option Certificate) (certs : List Certificate) :
    Prop where
  links : ∀ below child parent above, certs = below ++ child :: parent :: above →
    (∀ a ∈ anchor, a.fingerprint ≠ child.fingerprint) ∧
      (child.isSelfIssued = true → verifier.certificate child child = .ok false) ∧
        SoleIssuer s verifier policy anchor ((below ++ [child]).map (·.fingerprint)) child parent
  ends : ∀ last ∈ certs.getLast?,
    (ChainBuilder.mk s.repository verifier policy).EndsAt anchor last

/-- A record under which the store offers an issuer to a certificate. -/
structure Records (s : CertificateStore) (policy : CrossCertificationPolicy)
    (current issuer record : Certificate) : Prop where
  held : record ∈ s.certificates
  named : DistinguishedName.same record.subject current.issuer = true
  allowed : policy.allowsIssuer record.type = true
  fingerprint_eq : record.fingerprint = issuer.fingerprint

/-- A record under which the store offers the end of a path to the certificate before it. -/
def RecordsEnd (s : CertificateStore) (policy : CrossCertificationPolicy)
    (certs : List Certificate) (record : Certificate) : Prop :=
  ∃ below child last, certs = below ++ [child, last] ∧ Records s policy child last record

/-- No contender of another fingerprint comes before a record of the end of a path. -/
def RecordLeads (s : CertificateStore) (verifier : SignatureVerifier)
    (policy : CrossCertificationPolicy) (anchor : Option Certificate) (certs : List Certificate) :
    Prop :=
  ∀ below child last, certs = below ++ [child, last] →
    ∀ record, Records s policy child last record →
      ∀ other, Contender s policy anchor ((below ++ [child]).map (·.fingerprint)) child other →
        other.fingerprint ≠ last.fingerprint → ¬Precedes verifier child other record

/-- A chain has the certificates of a path, and of the last one the store's record if the store
offers one. -/
structure KeepsTo (s : CertificateStore) (policy : CrossCertificationPolicy)
    (certs found : List Certificate) : Prop where
  fingerprints_eq : found.map (·.fingerprint) = certs.map (·.fingerprint)
  eq_of_not_recorded : (∀ record, ¬RecordsEnd s policy certs record) → found = certs
  eq_of_recorded : ∀ record, RecordsEnd s policy certs record → found = certs.dropLast ++ [record]

/-- What a walk takes for an issuer: the store's record, or the issuer itself if there is none. -/
def StandsIn (s : CertificateStore) (policy : CrossCertificationPolicy)
    (current issuer taken : Certificate) : Prop :=
  Records s policy current issuer taken ∨
    taken = issuer ∧ ∀ record, ¬Records s policy current issuer record

variable {s : CertificateStore} {verifier : SignatureVerifier} {policy : CrossCertificationPolicy}
  {anchor : Option Certificate} {met path : List String} {left : Nat}
  {c current issuer next other record taken : Certificate}
  {issuers rest below certs found : List Certificate}

theorem StandsIn.fingerprint_eq (h : StandsIn s policy current issuer taken) :
    taken.fingerprint = issuer.fingerprint := by
  rcases h with hrecord | ⟨rfl, _⟩
  · exact hrecord.fingerprint_eq
  · rfl

theorem not_recordsEnd_singleton : ¬RecordsEnd s policy [c] record := by
  rintro ⟨below, child, last, heq, _⟩
  have hlength := congrArg List.length heq
  simp at hlength

theorem recordsEnd_pair_iff :
    RecordsEnd s policy [current, issuer] record ↔ Records s policy current issuer record := by
  constructor
  · rintro ⟨below, child, last, heq, hrecord⟩
    have hsplit : [] ++ [current, issuer] = below ++ [child, last] := heq
    obtain ⟨rfl, rfl⟩ : current = child ∧ issuer = last := by
      simpa using (List.append_inj' hsplit rfl).2
    exact hrecord
  · intro hrecord
    exact ⟨[], current, issuer, rfl, hrecord⟩

theorem recordsEnd_cons_iff :
    RecordsEnd s policy (c :: current :: issuer :: rest) record ↔
      RecordsEnd s policy (current :: issuer :: rest) record := by
  constructor
  · rintro ⟨below, child, last, heq, hrecord⟩
    cases below with
    | nil => simp at heq
    | cons first below => exact ⟨below, child, last, (List.cons.inj heq).2, hrecord⟩
  · rintro ⟨below, child, last, heq, hrecord⟩
    exact ⟨c :: below, child, last, by rw [heq, List.cons_append], hrecord⟩

theorem KeepsTo.singleton : KeepsTo s policy [c] [c] :=
  ⟨rfl, fun _ => rfl, fun _ hrecord => absurd hrecord not_recordsEnd_singleton⟩

theorem KeepsTo.cons (h : KeepsTo s policy (current :: issuer :: rest) found) :
    KeepsTo s policy (c :: current :: issuer :: rest) (c :: found) := by
  constructor
  · rw [List.map_cons, h.fingerprints_eq, ← List.map_cons]
  · intro hnone
    rw [h.eq_of_not_recorded fun record hrecord => hnone record (recordsEnd_cons_iff.2 hrecord)]
  · intro record hrecord
    rw [h.eq_of_recorded record (recordsEnd_cons_iff.1 hrecord)]
    rfl

theorem Candidate.contender (h : Candidate s policy anchor path current issuer) :
    Contender s policy anchor path current issuer := by
  cases h with
  | offered hoffered =>
      exact ⟨.inl ⟨hoffered.held, hoffered.allowed⟩, hoffered.named, hoffered.fresh⟩
  | anchor ha hnamed hfresh _ => exact ⟨.inr ha, hnamed, hfresh⟩

/-- Some candidate stands in for a contender. -/
theorem Contender.exists_candidate (h : Contender s policy anchor path current issuer) :
    ∃ candidate, Candidate s policy anchor path current candidate ∧
      StandsIn s policy current issuer candidate := by
  by_cases hrecorded : ∃ record, Records s policy current issuer record
  · obtain ⟨record, hrecord⟩ := hrecorded
    have hfresh : record.fingerprint ∉ path := by
      rw [hrecord.fingerprint_eq]
      exact h.fresh
    exact ⟨record, .offered ⟨hrecord.held, hrecord.named, hrecord.allowed, hfresh⟩, .inl hrecord⟩
  · have hnone : ∀ record, ¬Records s policy current issuer record := not_exists.1 hrecorded
    refine ⟨issuer, ?_, .inr ⟨rfl, hnone⟩⟩
    rcases h.known with ⟨hheld, hallowed⟩ | hanchor
    · exact absurd ⟨hheld, h.named, hallowed, rfl⟩ (hnone issuer)
    · refine .anchor hanchor h.named h.fresh fun record hoffered heq => ?_
      exact hnone record ⟨hoffered.held, hoffered.named, hoffered.allowed, heq⟩

theorem Contender.congr (hpath : ∀ print, print ∈ path ↔ print ∈ met)
    (h : Contender s policy anchor path current issuer) :
    Contender s policy anchor met current issuer :=
  ⟨h.known, h.named, fun hmet => h.fresh ((hpath _).2 hmet)⟩

/-- Nothing of another fingerprint comes before what verifies as well as the sole issuer does. -/
theorem SoleIssuer.not_precedes (h : SoleIssuer s verifier policy anchor met current issuer)
    (hverifies : verifier.certificate current record = .ok true)
    (hother : Contender s policy anchor met current other)
    (hne : other.fingerprint ≠ issuer.fingerprint) : ¬Precedes verifier current other record :=
  fun hprecedes => h.rejects other hother hne (hprecedes.verifies hverifies)

/-- A certificate that is not the last of an unambiguous path is held by the store. -/
theorem Unambiguous.held_of_next
    (h : Unambiguous s verifier policy anchor (below ++ current :: issuer :: next :: rest)) :
    issuer ∈ s.certificates := by
  obtain ⟨_, _, hsole⟩ := h.links below current issuer (next :: rest) rfl
  obtain ⟨hanchor, _⟩ := h.links (below ++ [current]) issuer next rest (by simp)
  rcases hsole.contends.known with ⟨hheld, _⟩ | hissuer
  · exact hheld
  · exact absurd rfl (hanchor issuer hissuer)

section Distinct

variable (hdistinct : (s.certificates.map (·.fingerprint)).Nodup)

include hdistinct

theorem Records.eq (h : Records s policy current issuer record)
    (hother : Records s policy current issuer other) : record = other :=
  List.inj_on_of_nodup_map hdistinct h.held hother.held
    (h.fingerprint_eq.trans hother.fingerprint_eq.symm)

/-- An issuer that the store holds is its own record. -/
theorem StandsIn.eq_of_held (h : StandsIn s policy current issuer taken)
    (hheld : issuer ∈ s.certificates) : taken = issuer := by
  rcases h with hrecord | ⟨heq, _⟩
  · exact List.inj_on_of_nodup_map hdistinct hrecord.held hheld hrecord.fingerprint_eq
  · exact heq

/-- A walk that ends at an issuer ends at what stands in for it. -/
theorem StandsIn.endsAt (h : StandsIn s policy current issuer taken)
    (hcontends : Contender s policy anchor met current issuer)
    (hend : (ChainBuilder.mk s.repository verifier policy).EndsAt anchor issuer) :
    (ChainBuilder.mk s.repository verifier policy).EndsAt anchor taken := by
  cases anchor with
  | some a => exact Eq.trans hend h.fingerprint_eq.symm
  | none =>
      obtain ⟨hheld, _⟩ := hcontends.known.resolve_right (by simp)
      rwa [h.eq_of_held hdistinct hheld]

theorem KeepsTo.pair (h : StandsIn s policy current issuer taken) :
    KeepsTo s policy [current, issuer] [current, taken] := by
  constructor
  · simp only [List.map_cons, List.map_nil, h.fingerprint_eq]
  · intro hnone
    rcases h with hrecord | ⟨rfl, _⟩
    · exact absurd (recordsEnd_pair_iff.2 hrecord) (hnone taken)
    · rfl
  · intro record hrecord
    have hoffered := recordsEnd_pair_iff.1 hrecord
    rcases h with htaken | ⟨_, hnone⟩
    · obtain rfl := hoffered.eq hdistinct htaken
      rfl
    · exact absurd hoffered (hnone record)

theorem Candidate.eq_of_fingerprint_eq (h : Candidate s policy anchor path current issuer)
    (hother : Candidate s policy anchor path current other)
    (heq : issuer.fingerprint = other.fingerprint) : issuer = other := by
  cases h with
  | offered hoffered =>
      cases hother with
      | offered hoffered' =>
          exact List.inj_on_of_nodup_map hdistinct hoffered.held hoffered'.held heq
      | anchor _ _ _ hnone => exact absurd heq (hnone issuer hoffered)
  | anchor ha _ _ hnone =>
      cases hother with
      | offered hoffered' => exact absurd heq.symm (hnone other hoffered')
      | anchor ha' _ _ _ => exact Option.some.inj (ha.symm.trans ha')

/-- A walk chooses the sole issuer of a certificate, or a record of it that leads. -/
theorem SoleIssuer.exists_chooses (hpath : ∀ print, print ∈ path ↔ print ∈ met)
    (h : SoleIssuer s verifier policy anchor met current issuer)
    (hleads : ∀ record, Records s policy current issuer record →
      ∀ other, Contender s policy anchor met current other →
        other.fingerprint ≠ issuer.fingerprint → ¬Precedes verifier current other record) :
    ∃ chosen, (ChainBuilder.mk s.repository verifier policy).Chooses anchor path current chosen ∧
      StandsIn s policy current issuer chosen := by
  have hcontends : Contender s policy anchor path current issuer :=
    h.contends.congr fun print => (hpath print).symm
  obtain ⟨chosen, hchosen, hstands⟩ := hcontends.exists_candidate
  refine ⟨chosen, (chooses_iff hdistinct).2 ⟨hchosen, ?_⟩, hstands⟩
  intro rival hrival
  have hcontender : Contender s policy anchor met current rival := hrival.contender.congr hpath
  by_cases hsame : rival.fingerprint = issuer.fingerprint
  · have heq : rival.fingerprint = chosen.fingerprint := hsame.trans hstands.fingerprint_eq.symm
    obtain rfl := hrival.eq_of_fingerprint_eq hdistinct hchosen heq
    exact not_precedes_self
  · rcases hstands with hrecord | ⟨rfl, _⟩
    · exact hleads chosen hrecord rival hcontender hsame
    · exact h.not_precedes h.verifies hcontender hsame

/-- A walk goes up an unambiguous path. -/
theorem Unambiguous.ascends
    (h : Unambiguous s verifier policy anchor (below ++ current :: issuers))
    (hleads : RecordLeads s verifier policy anchor (below ++ current :: issuers))
    (hpath : ∀ print, print ∈ path ↔ print ∈ (below ++ [current]).map (·.fingerprint))
    (hdepth : issuers.length ≤ left) :
    ∃ found, (ChainBuilder.mk s.repository verifier policy).Ascends anchor left path current found ∧
      KeepsTo s policy (current :: issuers) (current :: found) := by
  -- What lies below the current certificate and the path of the walk grow together.
  induction issuers generalizing below current path left with
  | nil => exact ⟨[], .ends (h.ends current (by simp)), .singleton⟩
  | cons issuer rest ih =>
      obtain ⟨left, rfl⟩ := Nat.exists_eq_add_one.2 (Nat.lt_of_lt_of_le rest.length.succ_pos hdepth)
      obtain ⟨hanchor, hself, hsole⟩ := h.links below current issuer rest rfl
      have hpasses : (ChainBuilder.mk s.repository verifier policy).Passes anchor current :=
        ⟨hanchor, isSelfSigned_eq_false_iff.2 hself⟩
      cases rest with
      | nil =>
          obtain ⟨chosen, hchooses, hstands⟩ :=
            hsole.exists_chooses hdistinct hpath (hleads below current issuer rfl)
          have hend : (ChainBuilder.mk s.repository verifier policy).EndsAt anchor chosen :=
            hstands.endsAt hdistinct hsole.contends (h.ends issuer (by simp))
          exact ⟨[chosen], .step hpasses hchooses (.ends hend), .pair hdistinct hstands⟩
      | cons next rest =>
          -- Only the last issuer may have a record other than itself.
          have hheld : issuer ∈ s.certificates := h.held_of_next
          obtain ⟨chosen, hchooses, hstands⟩ :=
            hsole.exists_chooses hdistinct hpath fun record hrecord other hother hne => by
              rw [StandsIn.eq_of_held hdistinct (.inl hrecord) hheld]
              exact hsole.not_precedes hsole.verifies hother hne
          obtain rfl := hstands.eq_of_held hdistinct hheld
          have hsplit : below ++ current :: chosen :: next :: rest =
              (below ++ [current]) ++ chosen :: next :: rest := by simp
          rw [hsplit] at h hleads
          have hgrown : ∀ print, print ∈ chosen.fingerprint :: path ↔
              print ∈ (below ++ [current] ++ [chosen]).map (·.fingerprint) := by
            intro print
            rw [List.map_append, List.mem_append, ← hpath, List.mem_cons, or_comm,
              List.map_singleton, List.mem_singleton]
          obtain ⟨found, hascends, hkeeps⟩ := ih h hleads hgrown (Nat.le_of_succ_le_succ hdepth)
          exact ⟨chosen :: found, .step hpasses hchooses hascends, hkeeps.cons⟩

end Distinct

end ChainBuilder

namespace Specimen

open ChainBuilder

end Specimen

end Mrtd
