import Mrtd.Sod.DataGroups
import Mrtd.Sod.Verification
import Mrtd.Trust.Validation

/-!
Passive Authentication: the signature of the security object, the trust in its signer and the
integrity of the data groups presented, combined into one verdict.
-/

namespace Mrtd

open Sod

/-- Who asked, passed through untouched. -/
structure RequestMetadata where
  requestedBy : Option String := none
  ipAddress : Option String := none
  userAgent : Option String := none
deriving DecidableEq, Repr

/-- A document presented for authentication. -/
structure AuthenticationRequest where
  sod : Bytes
  dataGroups : List (Nat × Bytes)
  issuingCountry : String
  documentNumber : String
  metadata : RequestMetadata := {}
deriving DecidableEq, Repr

/-- The verdict on the signer. -/
structure SignerVerdict where
  valid : Bool := false
  signer : Option Certificate := none
  authority : Option Certificate := none
  revocation : Option RevocationCheck := none
  /-- Every finding, blocking or not. -/
  findings : List Finding := []
deriving DecidableEq, Repr

namespace SignerVerdict

/-- The signer is revoked. -/
def isRevoked (v : SignerVerdict) : Bool := v.revocation.any (·.revoked)

/-- A revocation list was consulted. -/
def isChecked (v : SignerVerdict) : Bool := v.revocation.any (·.checked)

end SignerVerdict

/-- The overall status. -/
inductive AuthenticationStatus where
  | valid
  | invalid
  /-- The document could not be evaluated. -/
  | error
deriving DecidableEq, Repr

def AuthenticationStatus.name : AuthenticationStatus → String
  | valid => "VALID"
  | invalid => "INVALID"
  | error => "ERROR"

/-- What authentication found. -/
structure AuthenticationReport where
  issuingCountry : String
  documentNumber : String
  metadata : RequestMetadata
  signature : SodVerification
  signer : SignerVerdict
  dataGroups : Option DataGroupReport
  /-- Why the document could not be evaluated. -/
  error : Option String
deriving DecidableEq, Repr

namespace AuthenticationReport

/-- The security object is valid, its signer is trusted and not revoked, and at least one data
group was presented and none disagrees. -/
def passed (r : AuthenticationReport) : Bool :=
  r.error.isNone && r.signature.isValid && r.signer.valid && !r.signer.isRevoked &&
    r.dataGroups.any fun groups => groups.invalidCount == 0 && decide (0 < groups.total)

def status (r : AuthenticationReport) : AuthenticationStatus :=
  match r.error with
  | some _ => .error
  | none => if r.passed then .valid else .invalid

end AuthenticationReport

/-- What Passive Authentication depends on. -/
structure Authenticator where
  certificates : CertificateRepository
  lists : RevocationListRepository
  verifier : SignatureVerifier
  policy : AuthenticationPolicy

namespace Authenticator

/-- The verifier of security objects under the same policy. -/
def sodVerifier (a : Authenticator) : SodVerifier :=
  ⟨a.certificates, a.verifier, a.policy.requireEmbeddedSigner⟩

/-- The validator of certificates under the same policy. -/
def validator (a : Authenticator) : CertificateValidator :=
  ⟨a.certificates, a.lists, a.verifier, a.policy.validation⟩

/-- The best authority of a country that the signer names as its issuer. -/
def resolveAnchor (a : Authenticator) (signer : Certificate) (country : String) :
    Except Error (Option Certificate) := do
  let authorities ← a.certificates.findByCountryAndType country .csca
  pure (IssuerCandidates.select a.verifier signer
    (authorities.filter fun c => DistinguishedName.same c.subject signer.issuer))

/-- A finding of this kind fails the signer. -/
def isBlocking (a : Authenticator) (kind : FindingKind) : Bool :=
  !(a.policy.validation.tolerateExpiredSigner && kind == .expired)

/-- Judges the signer against the authorities of the issuing country. -/
def judgeSigner (a : Authenticator) (now : Timestamp) (signer : Certificate) (country : String) :
    Except Error SignerVerdict := do
  let anchor ← a.resolveAnchor signer country
  let report ← a.validator.validate now signer anchor a.policy.validation.checkRevocation
  let missing : List Finding := match anchor with
    | some _ => []
    | none => [.about signer .trustAnchorNotFound
        ("no CSCA of " ++ country ++ " with subject '" ++ signer.issuer ++ "'")]
  let findings := report.findings ++ missing
  pure {
    valid := !findings.any fun f => a.isBlocking f.kind
    signer := some signer
    authority := (report.chain.map (·.anchor)).or anchor
    revocation := report.revocation
    findings := findings }

/-- The verdict on the signer that was found, and why it could not be reached. Only a failing
repository is an error. -/
def signerVerdict (a : Authenticator) (now : Timestamp) (signer : Option Certificate)
    (country : String) : Except Error (SignerVerdict × Option String) :=
  match signer with
  | none => .ok ({}, none)
  | some signer =>
      match a.judgeSigner now signer country with
      | .ok verdict => .ok (verdict, none)
      | .error e =>
          if e.isRepository then .error e else .ok ({ signer := some signer }, some e.message)

/-- Authenticates a document whose security object has been verified. -/
def conclude (a : Authenticator) (now : Timestamp) (request : AuthenticationRequest)
    (signature : SodVerification) : Except Error AuthenticationReport :=
  match signature.error? .repositoryUnavailable with
  | some e => .error (.repository e.message)
  | none => do
      let country := Text.asciiUpper (Text.trim request.issuingCountry)
      let unevaluable := (signature.errors.find? (·.code.isUnevaluable)).map (·.display)
      let (signer, unjudged) ← a.signerVerdict now signature.signer country
      pure {
        issuingCountry := country
        documentNumber := request.documentNumber
        metadata := request.metadata
        signature := signature
        signer := signer
        dataGroups := signature.table.map fun table =>
          .compare table.algorithm table.digests request.dataGroups
        error := unevaluable.or unjudged }

def authenticate (a : Authenticator) (now : Timestamp) (request : AuthenticationRequest) :
    Except Error AuthenticationReport :=
  a.conclude now request (a.sodVerifier.verify request.sod)

end Authenticator

end Mrtd
