import Mrtd.Proofs.PassiveAuthentication
import Mrtd.Proofs.Trust.Candidates
import Mrtd.Proofs.Trust.DirectIssuer

/-!
The order of a store. What a store is asked for is an issuer or an anchor, and each is selected from
candidates with distinct fingerprints, so stores that hold the same certificates give the same
answer at every step of a walk. The walk, the validation that takes its chain from the walk and the
authentication that takes its anchor from a selection then come to the same results and errors.
-/

namespace Mrtd

namespace CertificateStore

/-- Two stores hold the same certificates, in whichever order, and no two of one fingerprint. -/
structure SameHoldings (s t : CertificateStore) : Prop where
  mem_iff : ∀ c, c ∈ s.certificates ↔ c ∈ t.certificates
  distinct_left : (s.certificates.map (·.fingerprint)).Nodup
  distinct_right : (t.certificates.map (·.fingerprint)).Nodup

theorem mem_ofList_iff {cs : List Certificate} {c : Certificate}
    (hdistinct : (cs.map (·.fingerprint)).Nodup) : c ∈ (ofList cs).certificates ↔ c ∈ cs := by
  constructor
  · exact mem_of_mem_ofList
  · intro h
    exact mem_ofList_of_unique h fun other hother => List.inj_on_of_nodup_map hdistinct hother h

/-- The order of insertion does not decide what is held. -/
theorem sameHoldings_of_perm {cs cs' : List Certificate} (h : cs.Perm cs')
    (hdistinct : (cs.map (·.fingerprint)).Nodup) : (ofList cs).SameHoldings (ofList cs') := by
  have hdistinct' : (cs'.map (·.fingerprint)).Nodup := (h.map _).nodup_iff.1 hdistinct
  refine ⟨fun c => ?_, nodup_ofList cs, nodup_ofList cs'⟩
  rw [mem_ofList_iff hdistinct, mem_ofList_iff hdistinct', h.mem_iff]

/-- The candidates for the anchor of a signer: the authorities of a country that it may name as its
issuer. -/
def authorities (s : CertificateStore) (signer : Certificate) (country : String) :
    List Certificate :=
  ((s.findByCountry country).filter (·.type == .csca)).filter fun c =>
    DistinguishedName.same c.subject signer.issuer

theorem authorities_sublist {s : CertificateStore} {signer : Certificate} {country : String} :
    (s.authorities signer country).Sublist s.certificates :=
  (List.filter_sublist.trans List.filter_sublist).trans List.filter_sublist

theorem mem_authorities {s : CertificateStore} {signer c : Certificate} {country : String} :
    c ∈ s.authorities signer country ↔ c ∈ s.certificates ∧
      (c.country.any fun code => Text.eqIgnoreAsciiCase code country) = true ∧
        (c.type == .csca) = true ∧ DistinguishedName.same c.subject signer.issuer = true := by
  simp only [authorities, findByCountry, List.mem_filter, and_assoc]

end CertificateStore

open CertificateStore

namespace ChainBuilder

section Walk

variable {b b' : ChainBuilder} {c : Certificate} {anchor : Option Certificate}
  {maxDepth left : Nat} {path : List String} {current : Certificate}

theorem atEnd_congr (h : b.verifier = b'.verifier) :
    b.atEnd c anchor current = b'.atEnd c anchor current := by
  simp only [atEnd, isSelfSigned, h]

theorem next_of_candidates {cs : List Certificate}
    (h : b.candidates anchor path current = .ok cs) :
    b.next c anchor path current =
      match IssuerCandidates.select b.verifier current cs with
      | some issuer => .ok issuer
      | none => .error (.invalid (broken c current)) := by
  rw [next, h]
  rfl

/-- Walks that choose the same issuer at every step are the same. -/
theorem walk_congr (hverifier : b.verifier = b'.verifier)
    (hnext : ∀ path current, b.next c anchor path current = b'.next c anchor path current) :
    b.walk c anchor maxDepth left path current = b'.walk c anchor maxDepth left path current := by
  induction left generalizing path current with
  | zero => rw [walk, walk, atEnd_congr hverifier]
  | succ left ih => simp only [walk, atEnd_congr hverifier, hnext, ih]

end Walk

variable {s t : CertificateStore} {verifier : SignatureVerifier}
  {policy : CrossCertificationPolicy} {c : Certificate} {anchor : Option Certificate}
  {maxDepth : Nat} {path : List String} {current issuer : Certificate}

theorem candidate_congr (h : s.SameHoldings t) :
    Candidate s policy anchor path current issuer ↔
      Candidate t policy anchor path current issuer := by
  have hst : s.certificates ⊆ t.certificates := fun held => (h.mem_iff held).1
  have hts : t.certificates ⊆ s.certificates := fun held => (h.mem_iff held).2
  constructor
  · intro hcandidate
    exact hcandidate.mono hst fun _ _ _ hcopy _ => hts hcopy
  · intro hcandidate
    exact hcandidate.mono hts fun _ _ _ hcopy _ => hst hcopy

theorem next_congr (h : s.SameHoldings t) :
    (ChainBuilder.mk s.repository verifier policy).next c anchor path current =
      (ChainBuilder.mk t.repository verifier policy).next c anchor path current := by
  obtain ⟨cs, hcs, hdistinct, hmem⟩ :=
    candidates_of_store s verifier policy anchor path current
  obtain ⟨cs', hcs', hdistinct', hmem'⟩ :=
    candidates_of_store t verifier policy anchor path current
  have hsame : ∀ issuer, issuer ∈ cs ↔ issuer ∈ cs' := fun issuer =>
    (hmem issuer).trans ((candidate_congr h).trans (hmem' issuer).symm)
  rw [next_of_candidates hcs, next_of_candidates hcs',
    IssuerCandidates.select_congr (hdistinct h.distinct_left) (hdistinct' h.distinct_right) hsame]

theorem build_congr (h : s.SameHoldings t) :
    (ChainBuilder.mk s.repository verifier policy).build c anchor maxDepth =
      (ChainBuilder.mk t.repository verifier policy).build c anchor maxDepth := by
  have hwalk : (ChainBuilder.mk s.repository verifier policy).walk c anchor maxDepth maxDepth
        [c.fingerprint] c =
      (ChainBuilder.mk t.repository verifier policy).walk c anchor maxDepth maxDepth
        [c.fingerprint] c := walk_congr rfl fun _ _ => next_congr h
  rw [build, build, hwalk]

end ChainBuilder

namespace CertificateValidator

variable {s t : CertificateStore} {lists : RevocationListRepository}
  {verifier : SignatureVerifier} {policy : ValidationPolicy} {now : Timestamp} {c : Certificate}
  {anchor : Option Certificate} {checkRevocation : Bool}

/-- Signatures are checked without a look at the certificates that are held. -/
theorem signatureFindings_congr {v v' : CertificateValidator} {chain : Option TrustChain}
    (h : v.verifier = v'.verifier) :
    v.signatureFindings c anchor chain = v'.signatureFindings c anchor chain := by
  have hone : ∀ child parent,
      v.signatureFinding child parent = v'.signatureFinding child parent := by
    intro child parent
    rw [signatureFinding, signatureFinding, h]
  have hlinks : ∀ direct links,
      v.linkFindings c direct links = v'.linkFindings c direct links := by
    intro direct links
    induction links with
    | nil => rfl
    | cons link rest ih => simp only [linkFindings, linkFinding, hone, ih]
  have hfirst : v.signatureFinding c = v'.signatureFinding c := funext (hone c)
  simp only [signatureFindings, hfirst, hlinks]

theorem validate_congr (h : s.SameHoldings t) :
    (CertificateValidator.mk s.repository lists verifier policy).validate now c anchor
        checkRevocation =
      (CertificateValidator.mk t.repository lists verifier policy).validate now c anchor
        checkRevocation := by
  have hchain :
      (CertificateValidator.mk s.repository lists verifier policy).chainOrFinding c anchor =
        (CertificateValidator.mk t.repository lists verifier policy).chainOrFinding c anchor := by
    rw [chainOrFinding, chainOrFinding, chainBuilder, chainBuilder, ChainBuilder.build_congr h]
  have hsignatures : ∀ chain,
      (CertificateValidator.mk s.repository lists verifier policy).signatureFindings c anchor
          chain =
        (CertificateValidator.mk t.repository lists verifier policy).signatureFindings c anchor
          chain := fun chain => signatureFindings_congr rfl
  simp only [validate, hchain, hsignatures]
  rfl

end CertificateValidator

namespace Sod.SodVerifier

/-- A security object that brings its signer along is verified without a look-up. -/
theorem verify_congr {certificates certificates' : CertificateRepository}
    {verifier : SignatureVerifier} {required : Bool} {octets : Bytes}
    (hembedded : ∀ so, SecurityObject.decode octets = .ok so → so.embeddedSigner.isSome = true) :
    (SodVerifier.mk certificates verifier required).verify octets =
      (SodVerifier.mk certificates' verifier required).verify octets := by
  unfold verify
  split
  · rename_i so hdecode
    obtain ⟨signer, hsigner⟩ := Option.isSome_iff_exists.1 (hembedded so hdecode)
    have hresolve : ∀ v : SodVerifier, v.resolveSigner so = .ok signer := by
      intro v
      rw [resolveSigner, hsigner]
    -- The look-up of the signer is the only place at which the repositories enter.
    simp only [verifyDecoded, hresolve]
    rfl
  · rfl

end Sod.SodVerifier

namespace Authenticator

open Sod

variable {s t : CertificateStore} {lists : RevocationListRepository}
  {verifier : SignatureVerifier} {policy : AuthenticationPolicy} {now : Timestamp}
  {request : AuthenticationRequest} {signer : Certificate} {country : String}

theorem resolveAnchor_repository :
    (Authenticator.mk s.repository lists verifier policy).resolveAnchor signer country =
      .ok (IssuerCandidates.select verifier signer (s.authorities signer country)) := rfl

theorem resolveAnchor_congr (h : s.SameHoldings t) :
    (Authenticator.mk s.repository lists verifier policy).resolveAnchor signer country =
      (Authenticator.mk t.repository lists verifier policy).resolveAnchor signer country := by
  have hselect : IssuerCandidates.select verifier signer (s.authorities signer country) =
      IssuerCandidates.select verifier signer (t.authorities signer country) := by
    refine IssuerCandidates.select_congr (h.distinct_left.sublist (authorities_sublist.map _))
      (h.distinct_right.sublist (authorities_sublist.map _)) fun c => ?_
    rw [mem_authorities, mem_authorities, h.mem_iff]
  rw [resolveAnchor_repository, resolveAnchor_repository, hselect]

theorem judgeSigner_congr (h : s.SameHoldings t) :
    (Authenticator.mk s.repository lists verifier policy).judgeSigner now signer country =
      (Authenticator.mk t.repository lists verifier policy).judgeSigner now signer country := by
  have hvalidate : ∀ anchor checkRevocation,
      (Authenticator.mk s.repository lists verifier policy).validator.validate now signer anchor
          checkRevocation =
        (Authenticator.mk t.repository lists verifier policy).validator.validate now signer anchor
          checkRevocation := fun _ _ => CertificateValidator.validate_congr h
  simp only [judgeSigner, resolveAnchor_congr h, hvalidate]
  rfl

theorem conclude_congr (h : s.SameHoldings t) {signature : SodVerification} :
    (Authenticator.mk s.repository lists verifier policy).conclude now request signature =
      (Authenticator.mk t.repository lists verifier policy).conclude now request signature := by
  have hverdict : ∀ found country,
      (Authenticator.mk s.repository lists verifier policy).signerVerdict now found country =
        (Authenticator.mk t.repository lists verifier policy).signerVerdict now found country := by
    intro found country
    cases found with
    | none => rfl
    | some signer => simp only [signerVerdict, judgeSigner_congr h]
  simp only [conclude, hverdict]

theorem authenticate_congr (h : s.SameHoldings t)
    (hembedded : ∀ so, SecurityObject.decode request.sod = .ok so →
      so.embeddedSigner.isSome = true) :
    (Authenticator.mk s.repository lists verifier policy).authenticate now request =
      (Authenticator.mk t.repository lists verifier policy).authenticate now request := by
  have hsignature :
      (Authenticator.mk s.repository lists verifier policy).sodVerifier.verify request.sod =
        (Authenticator.mk t.repository lists verifier policy).sodVerifier.verify request.sod :=
    SodVerifier.verify_congr hembedded
  rw [authenticate, authenticate, hsignature, conclude_congr h]

end Authenticator

/-- Certificates of distinct fingerprints may be inserted in any order: chains, reports and, where
the signer is embedded, the verdicts on documents are the same, and so are the errors. -/
theorem CertificateStore.verdicts_of_perm {cs cs' : List Certificate}
    {lists : RevocationListRepository} {verifier : SignatureVerifier} (hperm : cs.Perm cs')
    (hdistinct : (cs.map (·.fingerprint)).Nodup) :
    (∀ policy c anchor maxDepth,
        (ChainBuilder.mk (ofList cs).repository verifier policy).build c anchor maxDepth =
          (ChainBuilder.mk (ofList cs').repository verifier policy).build c anchor maxDepth) ∧
      (∀ policy now c anchor checkRevocation,
        (CertificateValidator.mk (ofList cs).repository lists verifier policy).validate now c anchor
            checkRevocation =
          (CertificateValidator.mk (ofList cs').repository lists verifier policy).validate now c
            anchor checkRevocation) ∧
      ∀ policy now request,
        (∀ so, Sod.SecurityObject.decode request.sod = .ok so → so.embeddedSigner.isSome = true) →
          (Authenticator.mk (ofList cs).repository lists verifier policy).authenticate now request =
            (Authenticator.mk (ofList cs').repository lists verifier policy).authenticate now
              request := by
  have h : (ofList cs).SameHoldings (ofList cs') := sameHoldings_of_perm hperm hdistinct
  refine ⟨?_, ?_, ?_⟩
  · intro policy c anchor maxDepth
    exact ChainBuilder.build_congr h
  · intro policy now c anchor checkRevocation
    exact CertificateValidator.validate_congr h
  · intro policy now request hembedded
    exact Authenticator.authenticate_congr h hembedded

namespace Specimen

open Der Cms Sod SecurityObject

/-- A name that is one printable string. -/
def commonName (value : Bytes) : Name :=
  ⟨[[⟨⟨[0x55, 0x04, 0x03]⟩, ⟨Tag.printableString, value⟩⟩]]⟩

def rootName : Name := commonName [0x52, 0x6F, 0x6F, 0x74]

def ed25519 : Algorithm := ⟨⟨[0x2B, 0x65, 0x70]⟩, none⟩

/-- The first instant of a year in the seventies. -/
def newYear (digit : UInt8) : Element :=
  ⟨Tag.utcTime, [0x37, digit, 0x30, 0x31, 0x30, 0x31, 0x30, 0x30, 0x30, 0x30, 0x30, 0x30, 0x5A]⟩

/-- The encoding of a signer that names the root as its issuer. -/
def encodedSigner : Element :=
  construct Tag.sequence [
    construct Tag.sequence [⟨Tag.integer, [0x51]⟩, ed25519.element, rootName.element,
      construct Tag.sequence [newYear 0x30, newYear 0x31], (commonName [0x44, 0x53]).element,
      construct Tag.sequence [ed25519.element, ⟨Tag.bitString, [0, 7]⟩]],
    ed25519.element, ⟨Tag.bitString, [0, 7]⟩]

/-- Signed data that brings its signer along. -/
def embeddingData : SignedData where
  version := 3
  digestAlgorithms := []
  content := ⟨securityTableOid, some ⟨Tag.octetString, tableOctets listed⟩⟩
  certificates := some [encodedSigner]
  crls := none
  signers := [signerInfo (.issuerAndSerial rootName [0x51])
    (DigestAlgorithm.sha1.digest (tableOctets listed))]

def embeddingRequest : AuthenticationRequest :=
  { request with sod := (ContentInfo.element ⟨signedDataOid, embeddingData.element⟩).encode }

/-- Two generations of the root, of which either may be the issuer, change places. -/
theorem bothRoots_verdicts_of_perm :
    CertificateStore.ofList [root, reissued] ≠ CertificateStore.ofList [reissued, root] ∧
      (ChainBuilder.mk (CertificateStore.ofList [root, reissued]).repository sharedKeyVerifier
          {}).build youngSigner none 5 =
        (ChainBuilder.mk (CertificateStore.ofList [reissued, root]).repository sharedKeyVerifier
          {}).build youngSigner none 5 ∧
      (CertificateValidator.mk (CertificateStore.ofList [root, reissued]).repository
          RevocationListStore.empty.repository sharedKeyVerifier {}).validate 50 youngSigner
            (some root) true =
        (CertificateValidator.mk (CertificateStore.ofList [reissued, root]).repository
          RevocationListStore.empty.repository sharedKeyVerifier {}).validate 50 youngSigner
            (some root) true ∧
      (decode embeddingRequest.sod).toOption.any (·.embeddedSigner.isSome) = true ∧
      (Authenticator.mk (CertificateStore.ofList [root, reissued]).repository
          RevocationListStore.empty.repository sharedKeyVerifier {}).authenticate 50
            embeddingRequest =
        (Authenticator.mk (CertificateStore.ofList [reissued, root]).repository
          RevocationListStore.empty.repository sharedKeyVerifier {}).authenticate 50
            embeddingRequest := by
  have hembeds : (decode embeddingRequest.sod).toOption.any (·.embeddedSigner.isSome) = true := by
    decide +kernel
  have hembedded : ∀ so, decode embeddingRequest.sod = .ok so →
      so.embeddedSigner.isSome = true := by
    intro so hso
    simpa [hso, Except.toOption] using hembeds
  obtain ⟨hbuild, hvalidate, hauthenticate⟩ := CertificateStore.verdicts_of_perm
    (List.Perm.swap reissued root []) (by decide)
  exact ⟨by decide, hbuild {} youngSigner none 5, hvalidate {} 50 youngSigner (some root) true,
    hembeds, hauthenticate {} 50 embeddingRequest hembedded⟩

end Specimen

end Mrtd
