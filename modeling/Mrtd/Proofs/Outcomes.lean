import Mrtd.Proofs.PassiveAuthentication
import Mrtd.Proofs.Sod.DecodeErrors

/-!
What an authentication can come to. Only a repository makes it fail; everything that is wrong with a
document is in the report. A document whose security object cannot be read gets a report that
follows from the request alone, as nothing is looked up for it.
-/

namespace Mrtd

open Sod

namespace AuthenticationReport

variable {r : AuthenticationReport}

theorem status_eq_error_iff : r.status = .error ↔ r.error.isSome = true := by
  unfold status
  cases r.error with
  | some text => simp
  | none => cases r.passed <;> simp

/-- A document that could not be evaluated has not passed. -/
theorem passed_of_error (h : r.error.isSome = true) : r.passed = false := by
  obtain ⟨text, htext⟩ := Option.isSome_iff_exists.1 h
  simp [passed, htext]

theorem status_eq_valid_iff : r.status = .valid ↔ r.passed = true := by
  by_cases herror : r.error.isSome = true
  · have hstatus : r.status = .error := status_eq_error_iff.2 herror
    simp [hstatus, passed_of_error herror]
  · have hnone : r.error = none := by simpa using herror
    cases hpassed : r.passed <;> simp [status, hnone, hpassed]

/-- The report on a document whose security object cannot be read. -/
def unreadable (request : AuthenticationRequest) (e : Error) : AuthenticationReport where
  issuingCountry := Text.asciiUpper (Text.trim request.issuingCountry)
  documentNumber := request.documentNumber
  metadata := request.metadata
  signature := .failed e
  signer := {}
  dataGroups := none
  error := some (SodError.ofError e).display

end AuthenticationReport

namespace Authenticator

variable {a : Authenticator} {now : Timestamp} {request : AuthenticationRequest} {e : Error}

theorem isRepository_of_signerVerdict {found : Option Certificate} {country : String}
    (h : a.signerVerdict now found country = .error e) : e.isRepository = true := by
  unfold signerVerdict at h
  split at h
  · cases h
  · split at h
    · cases h
    · split at h
      · obtain rfl := Except.error.inj h
        assumption
      · cases h

theorem isRepository_of_conclude {signature : SodVerification}
    (h : a.conclude now request signature = .error e) : e.isRepository = true := by
  unfold conclude at h
  split at h
  · obtain rfl := Except.error.inj h
    rfl
  · rcases bind_eq_error_iff.1 h with hsigner | ⟨_, _, hreport⟩
    · exact isRepository_of_signerVerdict hsigner
    · cases hreport

/-- A security object that is rejected is not taken for a repository that fails, and it names no
signer to look up. -/
theorem authenticate_of_rejected (h : SecurityObject.decode request.sod = .error e) :
    a.authenticate now request = .ok (.unreadable request e) := by
  have hinput : e.isUnevaluableInput = true := SecurityObject.decode_blamesInput request.sod e h
  have hsignature : a.sodVerifier.verify request.sod = .failed e := by
    rw [SodVerifier.verify, h]
  have hunevaluable : (SodError.ofError e).code.isUnevaluable = true := by
    rcases SodError.ofError_code hinput with hcode | hcode <;> rw [hcode] <;> rfl
  have havailable : (SodVerification.failed e).error? .repositoryUnavailable = none := by
    rcases SodError.ofError_code hinput with hcode | hcode <;>
      simp [SodVerification.error?, SodVerification.failed, hcode]
  have hfirst : (SodVerification.failed e).errors.find? (·.code.isUnevaluable) =
      some (SodError.ofError e) := by
    simp [SodVerification.failed, hunevaluable]
  rw [authenticate, hsignature, conclude, havailable]
  simp only [hfirst]
  rfl

/-- Authentication fails only with a repository. Its status says whether the document passed and
whether it could be evaluated. A security object that is rejected is itself to blame; whatever the
stores hold, the report on it has the status of an error, the one error of the security object, and
neither data groups nor a signer. -/
theorem authenticate_outcome (a : Authenticator) (now : Timestamp)
    (request : AuthenticationRequest) :
    (∀ e, a.authenticate now request = .error e → e.isRepository = true) ∧
      (∀ report, a.authenticate now request = .ok report →
        (report.status = .valid ↔ report.passed = true) ∧
          (report.status = .error ↔ report.error.isSome = true)) ∧
      ∀ e, SecurityObject.decode request.sod = .error e →
        e.isUnevaluableInput = true ∧
          ∃ report : AuthenticationReport,
            (∀ (a : Authenticator) (now : Timestamp), a.authenticate now request = .ok report) ∧
              report.status = .error ∧ report.passed = false ∧
                (∃ failure, report.signature.errors = [failure] ∧
                  (failure.code = .decodeFailed ∨ failure.code = .unsupportedAlgorithm)) ∧
                  report.dataGroups = none ∧ report.signer = ⟨false, none, none, none, []⟩ := by
  refine ⟨?_, ?_, ?_⟩
  · intro e h
    exact isRepository_of_conclude h
  · intro report _
    exact ⟨AuthenticationReport.status_eq_valid_iff, AuthenticationReport.status_eq_error_iff⟩
  · intro e h
    have hinput : e.isUnevaluableInput = true := SecurityObject.decode_blamesInput request.sod e h
    have hreport : ∀ (a : Authenticator) (now : Timestamp),
        a.authenticate now request = .ok (.unreadable request e) :=
      fun a now => authenticate_of_rejected h
    refine ⟨hinput, .unreadable request e, hreport, rfl, rfl, ?_, rfl, rfl⟩
    exact ⟨SodError.ofError e, rfl, SodError.ofError_code hinput⟩

end Authenticator

namespace Specimen

/-- A repository that answers nothing. -/
def unavailable : Authenticator :=
  { authenticator with certificates := store.refusing fun _ => some "down" }

/-- Octets that begin as a security object does and end at once. -/
def truncatedRequest : AuthenticationRequest := { request with sod := [0x77] }

/-- One document passes, meets a repository that fails, or is cut short. -/
theorem request_outcome :
    (∃ e, unavailable.authenticate 50 request = .error e ∧ e.isRepository = true) ∧
      (∃ report, authenticator.authenticate 50 request = .ok report ∧ report.status = .valid) ∧
      ∃ report, unavailable.authenticate 50 truncatedRequest = .ok report ∧
        report.status = .error ∧ report.passed = false ∧ report.dataGroups = none ∧
          report.signer = {} := by
  refine ⟨?_, ?_, ?_⟩
  · have hfails : unavailable.authenticate 50 request = .error (.repository "down") := by
      decide +kernel
    obtain ⟨hrepository, _⟩ := Authenticator.authenticate_outcome unavailable 50 request
    exact ⟨_, hfails, hrepository _ hfails⟩
  · have hpasses : (authenticator.authenticate 50 request).toOption.any (·.passed) = true := by
      decide +kernel
    obtain ⟨report, hreport, hpassed⟩ := (Option.any_eq_true ..).1 hpasses
    have h := toOption_eq_some_iff.1 hreport
    obtain ⟨_, hstatus, _⟩ := Authenticator.authenticate_outcome authenticator 50 request
    exact ⟨report, h, (hstatus report h).1.2 hpassed⟩
  · have hrejected : SecurityObject.decode truncatedRequest.sod =
        .error Fault.malformedWrapper.error := by
      decide +kernel
    obtain ⟨_, _, hreport⟩ := Authenticator.authenticate_outcome unavailable 50 truncatedRequest
    obtain ⟨_, report, hany, hstatus, hpassed, _, hgroups, hsigner⟩ := hreport _ hrejected
    exact ⟨report, hany unavailable 50, hstatus, hpassed, hgroups, hsigner⟩

end Specimen

end Mrtd
