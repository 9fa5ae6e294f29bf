import Mrtd.Proofs.SideBySide
import Mrtd.Proofs.StoreOrder

/-!
What a report says beside the signature. The signer is judged and the data groups are compared
whatever is wrong with the signature: an algorithm that is not known, a digest that is not that of
the content and a signature that does not verify are errors in the verdict on the security object,
and none of them keeps the rest from being done.
-/

namespace Mrtd

/-- To check a signature over content no repository is asked. -/
def SignatureVerifier.ChecksContentAlone (verifier : SignatureVerifier) : Prop :=
  ∀ key algorithm message signature e,
    verifier.content key algorithm message signature = .error e → e.isRepository = false

theorem SignatureVerifier.standard_checksContentAlone : standard.ChecksContentAlone := by
  intro key algorithm message signature e h
  rcases bind_eq_error_iff.1 h with hscheme | ⟨scheme, _, hverdict⟩
  · unfold SignatureScheme.ofAlgorithm at hscheme
    split at hscheme <;> cases hscheme
    rfl
  · cases hverdict

namespace Sod

theorem SodError.code_ofError_eq_iff {e : Error} :
    (SodError.ofError e).code = .repositoryUnavailable ↔ e.isRepository = true := by
  cases e <;> simp [SodError.ofError, Error.isRepository]

/-- Two security objects name the same signer, embedded or not, and list the same digests. Their
signatures, and what these cover, may differ. -/
structure SecurityObject.SameMatter (so so' : SecurityObject) : Prop where
  embeddedSigner : so.embeddedSigner = so'.embeddedSigner
  signerId : so.signerId = so'.signerId
  algorithm : so.table.algorithm = so'.table.algorithm
  digests : so.table.digests = so'.table.digests

namespace SodVerifier

variable {v : SodVerifier} {so so' : SecurityObject} {algorithm : SignatureAlgorithm}
  {signer : Certificate}

theorem find?_digestErrors :
    (digestErrors so).find? (·.code == .repositoryUnavailable) = none := by
  unfold digestErrors
  cases so.signedAttributes with
  | none => rfl
  | some attributes =>
      by_cases hdigest : so.digestAlgorithm.digest so.content = attributes.messageDigest
      · simp [hdigest]
      · simp [hdigest]

theorem find?_signatureErrors (hcontent : v.verifier.ChecksContentAlone) :
    (v.signatureErrors so algorithm signer).find? (·.code == .repositoryUnavailable) = none := by
  unfold signatureErrors
  cases hanswer : v.verifier.content signer.publicKey algorithm so.signedBytes so.signature with
  | ok verifies => cases verifies <;> simp
  | error e =>
      have hother : e.isRepository = false := hcontent _ _ _ _ e hanswer
      simp [SodError.code_ofError_eq_iff, hother]

/-- The only repository that can fail is the one that is asked for the signer. -/
theorem error?_verifyDecoded_eq (hcontent : v.verifier.ChecksContentAlone) :
    (v.verifyDecoded so).error? .repositoryUnavailable =
      (errorOf (v.resolveSigner so)).find? (·.code == .repositoryUnavailable) := by
  rw [SodVerification.error?, verifyDecoded]
  simp only [List.find?_append, find?_errorOf_algorithm, find?_digestErrors, Option.none_or,
    Option.or_none]
  split
  · rw [find?_signatureErrors hcontent, Option.or_none]
  · simp

theorem resolveSigner_congr (h : so.SameMatter so') : v.resolveSigner so = v.resolveSigner so' := by
  rw [resolveSigner, resolveSigner, h.embeddedSigner, h.signerId]

end SodVerifier

end Sod

namespace Authenticator

open Sod

variable {a : Authenticator} {now : Timestamp} {request : AuthenticationRequest}

/-- Whatever the signatures of two security objects are worth: if they name the same signer and list
the same digests, the same is found of the signer and of the data groups. -/
theorem diagnostics_of_sameMatter {octets octets' : Bytes} {so so' : SecurityObject}
    (hcontent : a.verifier.ChecksContentAlone) (h : SecurityObject.decode octets = .ok so)
    (h' : SecurityObject.decode octets' = .ok so') (hsame : so.SameMatter so') :
    (∃ e, e.isRepository = true ∧
        a.authenticate now { request with sod := octets } = .error e ∧
        a.authenticate now { request with sod := octets' } = .error e) ∨
      ∃ report report',
        a.authenticate now { request with sod := octets } = .ok report ∧
        a.authenticate now { request with sod := octets' } = .ok report' ∧
        report.signer = report'.signer ∧ report.dataGroups = report'.dataGroups := by
  have hsigner : a.sodVerifier.resolveSigner so = a.sodVerifier.resolveSigner so' :=
    SodVerifier.resolveSigner_congr hsame
  have hrepository : (a.sodVerifier.verifyDecoded so).error? .repositoryUnavailable =
      (a.sodVerifier.verifyDecoded so').error? .repositoryUnavailable := by
    rw [SodVerifier.error?_verifyDecoded_eq hcontent, SodVerifier.error?_verifyDecoded_eq hcontent,
      hsigner]
  have hfound : (a.sodVerifier.verifyDecoded so).signer =
      (a.sodVerifier.verifyDecoded so').signer :=
    congrArg Except.toOption hsigner
  have halike : Alike
      (fun report report' : AuthenticationReport =>
        report.signer = report'.signer ∧ report.dataGroups = report'.dataGroups)
      (a.authenticate now { request with sod := octets })
      (a.authenticate now { request with sod := octets' }) := by
    rw [authenticate_of_decoded h, authenticate_of_decoded h']
    refine conclude_alike hrepository (R := Eq) ?_ ?_
    · rw [hfound]
      exact .refl (fun _ => rfl) _
    · rintro judged _ rfl
      refine ⟨rfl, ?_⟩
      simp [AuthenticationReport.ofVerdict, SodVerifier.verifyDecoded, hsame.algorithm,
        hsame.digests]
  rcases halike.cases with ⟨e, hleft, hright⟩ | ⟨report, report', hleft, hright, hreports⟩
  · exact .inl ⟨e, isRepository_of_conclude hleft, hleft, hright⟩
  · exact .inr ⟨report, report', hleft, hright, hreports⟩

end Authenticator

namespace Specimen

open Der Cms Sod SecurityObject

/-- The signer of the security object that embeds it, with a signature by an algorithm that is not
known, over no attributes. -/
def tamperedInfo : SignerInfo where
  version := 1
  signer := .issuerAndSerial rootName [0x51]
  digestAlgorithm := sha1
  signedAttributes := none
  signatureAlgorithm := ed25519
  signature := [8]
  unsignedAttributes := none

def tampered : Bytes :=
  (ContentInfo.element ⟨signedDataOid, { embeddingData with signers := [tamperedInfo] }.element⟩).encode

/-- Judges by the signatures themselves. -/
def strictAuthenticator : Authenticator :=
  ⟨store.repository, RevocationListStore.empty.repository, .standard, {}⟩

/-- The one signature does not verify, the other cannot even be tried. -/
theorem tampered_diagnostics :
    ∃ so so', decode embeddingRequest.sod = .ok so ∧ decode tampered = .ok so' ∧
      so.SameMatter so' ∧ so.signedBytes ≠ so'.signedBytes ∧
      ((∃ e, e.isRepository = true ∧
          strictAuthenticator.authenticate 50 embeddingRequest = .error e ∧
          strictAuthenticator.authenticate 50 { embeddingRequest with sod := tampered } =
            .error e) ∨
        ∃ report report',
          strictAuthenticator.authenticate 50 embeddingRequest = .ok report ∧
          strictAuthenticator.authenticate 50 { embeddingRequest with sod := tampered } =
            .ok report' ∧
          report.signer = report'.signer ∧ report.dataGroups = report'.dataGroups) := by
  have hboth : (decode embeddingRequest.sod).toOption.any (fun so =>
      (decode tampered).toOption.any fun so' =>
        decide (so.embeddedSigner = so'.embeddedSigner ∧ so.signerId = so'.signerId ∧
          so.table = so'.table ∧ so.signedBytes ≠ so'.signedBytes)) = true := by
    decide +kernel
  obtain ⟨so, hso, hboth⟩ := (Option.any_eq_true ..).1 hboth
  obtain ⟨so', hso', hboth⟩ := (Option.any_eq_true ..).1 hboth
  obtain ⟨hsigner, hid, htable, hbytes⟩ := of_decide_eq_true hboth
  have h := toOption_eq_some_iff.1 hso
  have h' := toOption_eq_some_iff.1 hso'
  have hsame : so.SameMatter so' := ⟨hsigner, hid, by rw [htable], by rw [htable]⟩
  exact ⟨so, so', h, h', hsame, hbytes, Authenticator.diagnostics_of_sameMatter
    SignatureVerifier.standard_checksContentAlone h h' hsame⟩

end Specimen

end Mrtd
