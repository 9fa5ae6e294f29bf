import Mrtd.Proofs.Outcomes

/-!
Two authentications side by side. What a report says of the signature is known before the signer is
judged, and what it says of the signer does not come from the signature, so two authentications are
compared by comparing the judgements on their signers, once the same repository failure, or none, is
noted for both security objects.
-/

namespace Mrtd

section Alike

variable {ε α β γ δ : Type} {R : α → β → Prop} {Q : γ → δ → Prop} {x : Except ε α}
  {y : Except ε β}

/-- Two runs fail with the same error, or both succeed and their results are related. -/
inductive Alike (R : α → β → Prop) : Except ε α → Except ε β → Prop
  | failed (e : ε) : Alike R (.error e) (.error e)
  | done {a : α} {b : β} : R a b → Alike R (.ok a) (.ok b)

namespace Alike

theorem refl {R : α → α → Prop} (h : ∀ a, R a a) (x : Except ε α) : Alike R x x := by
  cases x with
  | error e => exact .failed e
  | ok a => exact .done (h a)

/-- Equal runs are alike, in what they come to. -/
theorem of_eq {x y : Except ε α} (h : x = y) : Alike (fun a b => a = b ∧ x = .ok a) x y := by
  subst h
  cases x with
  | error e => exact .failed e
  | ok a => exact .done ⟨rfl, rfl⟩

/-- A run and the same run with its result rewritten. -/
theorem of_map (f : α → β) : Alike (fun a b => b = f a) x (x.map f) := by
  cases x with
  | error e => exact .failed e
  | ok a => exact .done rfl

theorem bind {f : α → Except ε γ} {g : β → Except ε δ} (h : Alike R x y)
    (hrest : ∀ a b, R a b → Alike Q (f a) (g b)) : Alike Q (x >>= f) (y >>= g) := by
  cases h with
  | failed e => exact .failed e
  | done hresult => exact hrest _ _ hresult

theorem map {f : α → γ} {g : β → δ} (h : Alike R x y) (hresult : ∀ a b, R a b → Q (f a) (g b)) :
    Alike Q (x.map f) (y.map g) := by
  cases h with
  | failed e => exact .failed e
  | done hrelated => exact .done (hresult _ _ hrelated)

theorem cases (h : Alike R x y) :
    (∃ e, x = .error e ∧ y = .error e) ∨ ∃ a b, x = .ok a ∧ y = .ok b ∧ R a b := by
  cases h with
  | failed e => exact .inl ⟨e, rfl, rfl⟩
  | done hresult => exact .inr ⟨_, _, rfl, rfl, hresult⟩

end Alike

end Alike

open Sod

/-- The report on a document, from what was found of its security object and of its signer, and from
what kept the signer from being judged. -/
def AuthenticationReport.ofVerdict (request : AuthenticationRequest) (signature : SodVerification)
    (judged : SignerVerdict × Option String) : AuthenticationReport where
  issuingCountry := Text.asciiUpper (Text.trim request.issuingCountry)
  documentNumber := request.documentNumber
  metadata := request.metadata
  signature := signature
  signer := judged.1
  dataGroups := signature.table.map fun table =>
    .compare table.algorithm table.digests request.dataGroups
  error := ((signature.errors.find? (·.code.isUnevaluable)).map (·.display)).or judged.2

namespace AuthenticationReport

/-- The report with another verdict on the validity of the signer. -/
def withValidity (report : AuthenticationReport) (valid : Bool) : AuthenticationReport :=
  { report with signer := { report.signer with valid := valid } }

theorem withValidity_valid (report : AuthenticationReport) :
    report.withValidity report.signer.valid = report := rfl

/-- The validity of the signer is one of the conditions of passing, and no other depends on it. -/
theorem passed_withValidity_iff (report : AuthenticationReport) {valid : Bool} :
    (report.withValidity valid).passed = true ↔
      valid = true ∧ (report.withValidity true).passed = true := by
  simp only [passed, withValidity, SignerVerdict.isRevoked, Bool.and_eq_true]
  tauto

end AuthenticationReport

namespace Authenticator

variable {a a' : Authenticator} {now : Timestamp} {request request' : AuthenticationRequest}
  {signature signature' : SodVerification} {so : SecurityObject} {signer signer' : Certificate}
  {country : String}

theorem authenticate_of_decoded (h : SecurityObject.decode request.sod = .ok so) :
    a.authenticate now request = a.conclude now request (a.sodVerifier.verifyDecoded so) := by
  rw [authenticate, SodVerifier.verify, h]

theorem conclude_of_unavailable {e : SodError}
    (h : signature.error? .repositoryUnavailable = some e) :
    a.conclude now request signature = .error (.repository e.message) := by
  rw [conclude, h]

theorem conclude_of_available (h : signature.error? .repositoryUnavailable = none) :
    a.conclude now request signature =
      (a.signerVerdict now signature.signer
        (Text.asciiUpper (Text.trim request.issuingCountry))).map (.ofVerdict request signature) := by
  simp only [conclude, h]
  cases a.signerVerdict now signature.signer
    (Text.asciiUpper (Text.trim request.issuingCountry)) <;> rfl

/-- A judgement that fails is passed on, or it leaves the signer unjudged. -/
theorem signerVerdict_alike {R : SignerVerdict → SignerVerdict → Prop}
    {Q : SignerVerdict × Option String → SignerVerdict × Option String → Prop}
    (hjudged : Alike R (a.judgeSigner now signer country) (a'.judgeSigner now signer' country))
    (hdone : ∀ verdict verdict', R verdict verdict' → Q (verdict, none) (verdict', none))
    (hunjudged : ∀ text, Q ({ signer := some signer }, some text)
      ({ signer := some signer' }, some text)) :
    Alike Q (a.signerVerdict now (some signer) country)
      (a'.signerVerdict now (some signer') country) := by
  rcases hjudged.cases with ⟨e, hleft, hright⟩ | ⟨verdict, verdict', hleft, hright, hrelated⟩
  · simp only [signerVerdict, hleft, hright]
    by_cases hrepository : e.isRepository = true
    · simp only [hrepository, if_true]
      exact .failed e
    · simp only [hrepository, Bool.false_eq_true, if_false]
      exact .done (hunjudged e.message)
  · simp only [signerVerdict, hleft, hright]
    exact .done (hdone verdict verdict' hrelated)

/-- Reports are related as the judgements on the signers are. -/
theorem conclude_alike {R : SignerVerdict × Option String → SignerVerdict × Option String → Prop}
    {Q : AuthenticationReport → AuthenticationReport → Prop}
    (hrepository : signature.error? .repositoryUnavailable =
      signature'.error? .repositoryUnavailable)
    (hverdict : Alike R
      (a.signerVerdict now signature.signer (Text.asciiUpper (Text.trim request.issuingCountry)))
      (a'.signerVerdict now signature'.signer
        (Text.asciiUpper (Text.trim request'.issuingCountry))))
    (hreport : ∀ judged judged', R judged judged' →
      Q (.ofVerdict request signature judged) (.ofVerdict request' signature' judged')) :
    Alike Q (a.conclude now request signature) (a'.conclude now request' signature') := by
  cases hnoted : signature.error? .repositoryUnavailable with
  | some e =>
      rw [conclude_of_unavailable hnoted, conclude_of_unavailable (hrepository ▸ hnoted)]
      exact .failed _
  | none =>
      rw [conclude_of_available hnoted, conclude_of_available (hrepository ▸ hnoted)]
      exact hverdict.map hreport

end Authenticator

end Mrtd
