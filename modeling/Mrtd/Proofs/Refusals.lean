import Mrtd.Proofs.SideBySide
import Mrtd.Proofs.StoreOrder

/-!
Lookups that are refused. Errors turn into findings, into errors of a security object and back, and
a signature that cannot be checked merely counts against a candidate; a refused lookup must take
none of these turns. Two runs are compared, one over stores that refuse some lookups and one over
stores that answer them all: they go together up to the first refusal that is met, which ends the
one run as the error that it is.
-/

namespace Mrtd

section Comparison

variable {ε ε' α β : Type} {stops : ε → Prop} {x y : Except ε α}

/-- A run comes to the same as another, or stops at an error of some kind. -/
def AgreesOr (stops : ε → Prop) (x y : Except ε α) : Prop :=
  x = y ∨ ∃ e, stops e ∧ x = .error e

namespace AgreesOr

@[refl]
theorem refl (x : Except ε α) : AgreesOr stops x x := .inl rfl

theorem mono {stops' : ε → Prop} (h : AgreesOr stops x y) (hstops : ∀ e, stops e → stops' e) :
    AgreesOr stops' x y := by
  rcases h with rfl | ⟨e, he, rfl⟩
  · exact .inl rfl
  · exact .inr ⟨e, hstops e he, rfl⟩

theorem bind {f g : α → Except ε β} (h : AgreesOr stops x y)
    (hrest : ∀ a, AgreesOr stops (f a) (g a)) : AgreesOr stops (x >>= f) (y >>= g) := by
  rcases h with rfl | ⟨e, he, rfl⟩
  · cases x with
    | error e => exact .inl rfl
    | ok a => exact hrest a
  · exact .inr ⟨e, he, rfl⟩

theorem map {f : α → β} (h : AgreesOr stops x y) : AgreesOr stops (x.map f) (y.map f) := by
  rcases h with rfl | ⟨e, he, rfl⟩
  · exact .inl rfl
  · exact .inr ⟨e, he, rfl⟩

theorem mapError {stops' : ε' → Prop} {f : ε → ε'} (h : AgreesOr stops x y)
    (hstops : ∀ e, stops e → stops' (f e)) :
    AgreesOr stops' (x.mapError f) (y.mapError f) := by
  rcases h with rfl | ⟨e, he, rfl⟩
  · exact .inl rfl
  · exact .inr ⟨f e, hstops e he, rfl⟩

end AgreesOr

end Comparison

namespace Refusals

variable {refused : Refusals} {lookups lookups' : List Lookup} {e : Error}

/-- An error is the refusal of one of some lookups, with the reason of the refusal. -/
def Causes (refused : Refusals) (lookups : List Lookup) (e : Error) : Prop :=
  ∃ lookup ∈ lookups, ∃ reason, refused lookup = some reason ∧ e = .repository reason

theorem Causes.mono (hlookups : lookups ⊆ lookups') (h : refused.Causes lookups e) :
    refused.Causes lookups' e := by
  obtain ⟨lookup, hmem, hreason⟩ := h
  exact ⟨lookup, hlookups hmem, hreason⟩

/-- A lookup is answered as if nothing were refused, or it is the cause of the error. -/
theorem answer_agreesOr {α : Type} (refused : Refusals) (lookup : Lookup) (a : α) :
    AgreesOr (refused.Causes [lookup]) (refused.answer lookup a)
      (Refusals.none.answer lookup a) := by
  unfold answer
  cases hrefused : refused lookup with
  | none => exact .refl _
  | some reason =>
      exact .inr ⟨.repository reason, ⟨lookup, by simp, reason, hrefused, rfl⟩, rfl⟩

end Refusals

variable {s : CertificateStore} {lists : RevocationListStore} {refused : Refusals}
  {verifier : SignatureVerifier} {c : Certificate} {anchor : Option Certificate}
  {now : Timestamp}

namespace ChainBuilder

variable {policy : CrossCertificationPolicy} {maxDepth left : Nat} {path : List String}
  {current : Certificate}

/-- A walk stops at a lookup by subject. -/
def StoppedBy (refused : Refusals) (failure : ChainFailure) : Prop :=
  ∃ e, refused.Causes [.bySubject] e ∧ failure = .operational e

theorem next_agreesOr :
    AgreesOr (StoppedBy refused)
      ((ChainBuilder.mk (s.refusing refused) verifier policy).next c anchor path current)
      ((ChainBuilder.mk s.repository verifier policy).next c anchor path current) := by
  have hfound := refused.answer_agreesOr .bySubject (s.findBySubject current.issuer)
  refine .bind (hfound.map.mapError fun e he => ⟨e, he, rfl⟩) fun cs => ?_
  -- The selection asks the verifier only.
  exact .refl _

theorem walk_agreesOr :
    AgreesOr (StoppedBy refused)
      ((ChainBuilder.mk (s.refusing refused) verifier policy).walk c anchor maxDepth left path
        current)
      ((ChainBuilder.mk s.repository verifier policy).walk c anchor maxDepth left path
        current) := by
  induction left generalizing path current with
  | zero =>
      rw [walk, walk]
      exact .refl _
  | succ left ih =>
      rw [walk, walk]
      refine .bind (.inl (atEnd_congr rfl)) fun ends => ?_
      cases ends with
      | true => exact .refl _
      | false =>
          refine .bind next_agreesOr fun issuer => ?_
          exact .bind ih fun issuers => .refl _

theorem build_agreesOr :
    AgreesOr (StoppedBy refused)
      ((ChainBuilder.mk (s.refusing refused) verifier policy).build c anchor maxDepth)
      ((ChainBuilder.mk s.repository verifier policy).build c anchor maxDepth) :=
  walk_agreesOr.map

end ChainBuilder

namespace RevocationChecker

variable {countryFallback : Bool}

theorem find_agreesOr :
    AgreesOr (refused.Causes [.validByIssuer, .validByCountry])
      ((RevocationChecker.mk (lists.refusing refused) countryFallback).find c)
      ((RevocationChecker.mk lists.repository countryFallback).find c) := by
  have hissuer := refused.answer_agreesOr .validByIssuer (lists.findValidByIssuer? c.issuer)
  refine .bind (hissuer.mono fun e he => he.mono (by decide)) fun found => ?_
  cases found with
  | some crl => exact .refl _
  | none =>
      cases countryFallback with
      | false => exact .refl _
      | true =>
          cases c.country with
          | none => exact .refl _
          | some country =>
              have hcountry := refused.answer_agreesOr .validByCountry
                (lists.findValidByCountry? country)
              exact .bind (hcountry.mono fun e he => he.mono (by decide)) fun crl => .refl _

theorem check_agreesOr :
    AgreesOr (refused.Causes [.validByIssuer, .validByCountry])
      ((RevocationChecker.mk (lists.refusing refused) countryFallback).check c now)
      ((RevocationChecker.mk lists.repository countryFallback).check c now) :=
  .bind find_agreesOr fun _ => .refl _

end RevocationChecker

namespace CertificateValidator

variable {policy : ValidationPolicy} {checkRevocation : Bool} {chain : Option TrustChain}

/-- The lookups of a validation. -/
def lookups : List Lookup := [.bySubject, .validByIssuer, .validByCountry]

theorem chainOrFinding_agreesOr :
    AgreesOr (refused.Causes [.bySubject])
      ((CertificateValidator.mk (s.refusing refused) (lists.refusing refused) verifier
        policy).chainOrFinding c anchor)
      ((CertificateValidator.mk s.repository lists.repository verifier policy).chainOrFinding c
        anchor) := by
  have hbuild : AgreesOr (ChainBuilder.StoppedBy refused)
      ((ChainBuilder.mk (s.refusing refused) verifier policy.crossCertification).build c anchor
        policy.maxChainDepth)
      ((ChainBuilder.mk s.repository verifier policy.crossCertification).build c anchor
        policy.maxChainDepth) := ChainBuilder.build_agreesOr
  simp only [chainOrFinding, chainBuilder]
  -- A walk that was stopped leaves no finding.
  rcases hbuild with hsame | ⟨failure, ⟨e, he, rfl⟩, hstopped⟩
  · rw [hsame]
  · rw [hstopped]
    exact .inr ⟨e, he, rfl⟩

theorem checkIfAsked_agreesOr :
    AgreesOr (refused.Causes [.validByIssuer, .validByCountry])
      ((CertificateValidator.mk (s.refusing refused) (lists.refusing refused) verifier
        policy).checkIfAsked now c chain checkRevocation)
      ((CertificateValidator.mk s.repository lists.repository verifier policy).checkIfAsked now c
        chain checkRevocation) := by
  unfold checkIfAsked
  split
  · exact RevocationChecker.check_agreesOr.map
  · exact .refl _

theorem validate_agreesOr :
    AgreesOr (refused.Causes lookups)
      ((CertificateValidator.mk (s.refusing refused) (lists.refusing refused) verifier
        policy).validate now c anchor checkRevocation)
      ((CertificateValidator.mk s.repository lists.repository verifier policy).validate now c anchor
        checkRevocation) := by
  refine .bind (chainOrFinding_agreesOr.mono fun e he => he.mono (by decide)) ?_
  rintro ⟨chain, findings⟩
  refine .bind (.inl (signatureFindings_congr rfl)) fun signatures => ?_
  refine .bind (checkIfAsked_agreesOr.mono fun e he => he.mono (by decide)) fun revocation => ?_
  exact .refl _

end CertificateValidator

namespace Sod.SodVerifier

variable {required : Bool} {octets : Bytes} {so : SecurityObject}

/-- The lookup of a signer is stopped; the error has the bare reason. -/
def StoppedBy (refused : Refusals) (e : SodError) : Prop :=
  ∃ reason, refused .bySerialAndIssuer = some reason ∧ e = ⟨.repositoryUnavailable, reason⟩

theorem resolveSigner_agreesOr :
    AgreesOr (StoppedBy refused)
      ((SodVerifier.mk (s.refusing refused) verifier required).resolveSigner so)
      ((SodVerifier.mk s.repository verifier required).resolveSigner so) := by
  unfold resolveSigner
  cases so.embeddedSigner with
  | some embedded => exact .refl _
  | none =>
      cases required with
      | true => exact .refl _
      | false =>
          cases so.signerId with
          | subjectKeyId id => exact .refl _
          | issuerAndSerial issuer serial =>
              rcases refused.answer_agreesOr .bySerialAndIssuer
                (s.findBySerialAndIssuer? serial issuer) with hsame | ⟨e, hcause, hstopped⟩
              · left
                simp only [CertificateStore.refusing, CertificateStore.repository, hsame]
              · obtain ⟨_, hlookup, reason, hreason, rfl⟩ := hcause
                obtain rfl := List.mem_singleton.1 hlookup
                refine .inr ⟨_, ⟨reason, hreason, rfl⟩, ?_⟩
                simp [CertificateStore.refusing, hstopped, SodError.ofError]

/-- A signer that could not be looked up is the first failure of a repository that is noted. -/
theorem error?_verifyDecoded {v : SodVerifier} {reason : String}
    (h : v.resolveSigner so = .error ⟨.repositoryUnavailable, reason⟩) :
    (v.verifyDecoded so).error? .repositoryUnavailable =
      some ⟨.repositoryUnavailable, reason⟩ := by
  rw [SodVerification.error?, verifyDecoded, h]
  simp only [List.append_assoc, List.find?_append, find?_errorOf_algorithm]
  rfl

theorem verify_eq_or_unavailable :
    (SodVerifier.mk (s.refusing refused) verifier required).verify octets =
        (SodVerifier.mk s.repository verifier required).verify octets ∨
      ∃ reason, refused .bySerialAndIssuer = some reason ∧
        ((SodVerifier.mk (s.refusing refused) verifier required).verify octets).error?
          .repositoryUnavailable = some ⟨.repositoryUnavailable, reason⟩ := by
  unfold verify
  cases SecurityObject.decode octets with
  | error e => exact .inl rfl
  | ok so =>
      have hsigner : AgreesOr (StoppedBy refused)
          ((SodVerifier.mk (s.refusing refused) verifier required).resolveSigner so)
          ((SodVerifier.mk s.repository verifier required).resolveSigner so) :=
        resolveSigner_agreesOr
      rcases hsigner with hsame | ⟨_, ⟨reason, hreason, rfl⟩, hstopped⟩
      · left
        simp only [verifyDecoded, hsame]
        rfl
      · exact .inr ⟨reason, hreason, error?_verifyDecoded hstopped⟩

end Sod.SodVerifier

namespace Authenticator

open Sod

variable {policy : AuthenticationPolicy} {request : AuthenticationRequest} {signer : Certificate}
  {country : String} {signature : SodVerification}

/-- The lookups of an authentication after the security object is verified. -/
def signerLookups : List Lookup := .byCountry :: CertificateValidator.lookups

/-- The lookups of an authentication. -/
def lookups : List Lookup := .bySerialAndIssuer :: signerLookups

theorem resolveAnchor_agreesOr :
    AgreesOr (refused.Causes [.byCountry])
      ((Authenticator.mk (s.refusing refused) (lists.refusing refused) verifier
        policy).resolveAnchor signer country)
      ((Authenticator.mk s.repository lists.repository verifier policy).resolveAnchor signer
        country) := by
  have hfound := refused.answer_agreesOr .byCountry (s.findByCountry country)
  exact .bind hfound.map fun authorities => .refl _

theorem judgeSigner_agreesOr :
    AgreesOr (refused.Causes signerLookups)
      ((Authenticator.mk (s.refusing refused) (lists.refusing refused) verifier
        policy).judgeSigner now signer country)
      ((Authenticator.mk s.repository lists.repository verifier policy).judgeSigner now signer
        country) := by
  refine .bind (resolveAnchor_agreesOr.mono fun e he => he.mono (by decide)) fun anchor => ?_
  refine .bind (CertificateValidator.validate_agreesOr.mono fun e he => he.mono (by decide)) ?_
  intro report
  exact .refl _

theorem signerVerdict_agreesOr {found : Option Certificate} :
    AgreesOr (refused.Causes signerLookups)
      ((Authenticator.mk (s.refusing refused) (lists.refusing refused) verifier
        policy).signerVerdict now found country)
      ((Authenticator.mk s.repository lists.repository verifier policy).signerVerdict now found
        country) := by
  cases found with
  | none => exact .refl _
  | some signer =>
      have hjudged : AgreesOr (refused.Causes signerLookups)
          ((Authenticator.mk (s.refusing refused) (lists.refusing refused) verifier
            policy).judgeSigner now signer country)
          ((Authenticator.mk s.repository lists.repository verifier policy).judgeSigner now signer
            country) := judgeSigner_agreesOr
      simp only [signerVerdict]
      -- Other errors leave the signer unjudged; a refusal is passed on.
      rcases hjudged with hsame | ⟨e, hcause, hstopped⟩
      · rw [hsame]
      · rw [hstopped]
        refine .inr ⟨e, hcause, ?_⟩
        obtain ⟨_, _, reason, _, rfl⟩ := hcause
        rfl

theorem conclude_agreesOr :
    AgreesOr (refused.Causes signerLookups)
      ((Authenticator.mk (s.refusing refused) (lists.refusing refused) verifier policy).conclude
        now request signature)
      ((Authenticator.mk s.repository lists.repository verifier policy).conclude now request
        signature) := by
  unfold conclude
  split
  · exact .refl _
  · exact .bind signerVerdict_agreesOr fun _ => .refl _

theorem authenticate_agreesOr :
    AgreesOr (refused.Causes lookups)
      ((Authenticator.mk (s.refusing refused) (lists.refusing refused) verifier
        policy).authenticate now request)
      ((Authenticator.mk s.repository lists.repository verifier policy).authenticate now
        request) := by
  have hsignature :
      (Authenticator.mk (s.refusing refused) (lists.refusing refused) verifier
          policy).sodVerifier.verify request.sod =
        (Authenticator.mk s.repository lists.repository verifier policy).sodVerifier.verify
          request.sod ∨
      ∃ reason, refused .bySerialAndIssuer = some reason ∧
        ((Authenticator.mk (s.refusing refused) (lists.refusing refused) verifier
          policy).sodVerifier.verify request.sod).error? .repositoryUnavailable =
            some ⟨.repositoryUnavailable, reason⟩ :=
    SodVerifier.verify_eq_or_unavailable
  rw [authenticate, authenticate]
  rcases hsignature with hsame | ⟨reason, hreason, hstopped⟩
  · rw [hsame]
    exact conclude_agreesOr.mono fun e he => he.mono (List.subset_cons_self ..)
  · rw [conclude_of_unavailable hstopped]
    exact .inr ⟨_, ⟨.bySerialAndIssuer, List.mem_cons_self, reason, hreason, rfl⟩, rfl⟩

end Authenticator

/-- Whichever lookups are refused: chains, revocation checks, reports on certificates and verdicts
on documents are those of stores that answer everything, or there is none, and the error is that of
a refused lookup. -/
theorem Refusals.agreesOr_of_refusing (refused : Refusals) (s : CertificateStore)
    (lists : RevocationListStore) (verifier : SignatureVerifier) :
    (∀ policy c anchor maxDepth,
        AgreesOr (ChainBuilder.StoppedBy refused)
          ((ChainBuilder.mk (s.refusing refused) verifier policy).build c anchor maxDepth)
          ((ChainBuilder.mk s.repository verifier policy).build c anchor maxDepth)) ∧
      (∀ countryFallback c now,
        AgreesOr (refused.Causes [.validByIssuer, .validByCountry])
          ((RevocationChecker.mk (lists.refusing refused) countryFallback).check c now)
          ((RevocationChecker.mk lists.repository countryFallback).check c now)) ∧
      (∀ policy now c anchor checkRevocation,
        AgreesOr (refused.Causes [.bySubject, .validByIssuer, .validByCountry])
          ((CertificateValidator.mk (s.refusing refused) (lists.refusing refused) verifier
            policy).validate now c anchor checkRevocation)
          ((CertificateValidator.mk s.repository lists.repository verifier policy).validate now c
            anchor checkRevocation)) ∧
      ∀ policy now request,
        AgreesOr
          (refused.Causes
            [.bySerialAndIssuer, .byCountry, .bySubject, .validByIssuer, .validByCountry])
          ((Authenticator.mk (s.refusing refused) (lists.refusing refused) verifier
            policy).authenticate now request)
          ((Authenticator.mk s.repository lists.repository verifier policy).authenticate now
            request) := by
  refine ⟨?_, ?_, ?_, ?_⟩
  · intro policy c anchor maxDepth
    exact ChainBuilder.build_agreesOr
  · intro countryFallback c now
    exact RevocationChecker.check_agreesOr
  · intro policy now c anchor checkRevocation
    exact CertificateValidator.validate_agreesOr
  · intro policy now request
    exact Authenticator.authenticate_agreesOr

/-- A root that cannot be looked up is not a root that is missing. -/
example :
    (ChainBuilder.mk (Specimen.store.refusing fun _ => some "down") Specimen.verifier {}).build
      Specimen.signer none 2 = .error (.operational (.repository "down")) := by
  with_unfolding_all rfl

end Mrtd
