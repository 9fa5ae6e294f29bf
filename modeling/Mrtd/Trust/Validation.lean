import Mrtd.Trust.Chain
import Mrtd.Trust.Revocation

/-!
Validation of a certificate: its own fields, its chain, the signatures along the chain and its
revocation, itemized in one report. The checks of the certificate's own fields always run;
revocation needs a chain.
-/

namespace Mrtd

/-- What one validation found. -/
structure ValidationReport where
  /-- Without findings the certificate is valid. -/
  findings : List Finding
  /-- The chain, if it could be built. -/
  chain : Option TrustChain
  /-- The outcome of the revocation check, if it ran. -/
  revocation : Option RevocationCheck
  validatedAt : Timestamp
deriving DecidableEq, Repr

namespace ValidationReport

def isValid (r : ValidationReport) : Bool :=
  r.findings.isEmpty

/-- There is a finding of this kind. -/
def has (r : ValidationReport) (kind : FindingKind) : Bool :=
  r.findings.any (·.kind == kind)

/-- The revocation check ran and found an entry. -/
def isRevoked (r : ValidationReport) : Bool :=
  r.revocation.any (·.revoked)

end ValidationReport

namespace Certificate

/-- The validity window must contain the instant. -/
def validityFinding (c : Certificate) (now : Timestamp) : Option Finding :=
  if now < c.notBefore then
    some (.about c .notYetValid ("not valid before " ++ c.notBefore.withOffset))
  else if c.notAfter < now then
    some (.about c .expired ("expired at " ++ c.notAfter.withOffset))
  else none

/-- An authority must assert that it is one; a signer must not. -/
def basicConstraintsFault (c : Certificate) : Option String :=
  if c.type.isAuthority then
    match c.basicConstraints with
    | none => some "CSCA lacks the Basic Constraints extension"
    | some bc => if bc.ca then none else some "CSCA does not assert cA"
  else if c.assertsCa then some "signer certificate asserts cA"
  else none

/-- The finding on Basic Constraints. -/
def basicConstraintsFinding (c : Certificate) : Option Finding :=
  c.basicConstraintsFault.map (.about c .basicConstraintsMismatch)

/-- An authority signs certificates and revocation lists, a signer signs; signers outside the
profile are not checked. -/
def keyUsageFault (c : Certificate) : Option String :=
  match c.type, c.keyUsage with
  | .dscNc, _ => none
  | _, none => some "Key Usage extension missing"
  | .csca, some ku =>
      if ku.keyCertSign && ku.crlSign then none
      else some "CSCA key usage lacks keyCertSign or cRLSign"
  | _, some ku =>
      if ku.digitalSignature then none else some "signer key usage lacks digitalSignature"

/-- The finding on Key Usage. -/
def keyUsageFinding (c : Certificate) : Option Finding :=
  c.keyUsageFault.map (.about c .keyUsageMismatch)

/-- The findings on the certificate's own fields. -/
def ownFindings (c : Certificate) (now : Timestamp) : List Finding :=
  (c.validityFinding now).toList ++ c.basicConstraintsFinding.toList ++ c.keyUsageFinding.toList

end Certificate

/-- What validation depends on. -/
structure CertificateValidator where
  certificates : CertificateRepository
  lists : RevocationListRepository
  verifier : SignatureVerifier
  policy : ValidationPolicy

namespace CertificateValidator

/-- The builder of chains under the same policy. -/
def chainBuilder (v : CertificateValidator) : ChainBuilder :=
  ⟨v.certificates, v.verifier, v.policy.crossCertification⟩

/-- The revocation checker under the same policy. -/
def revocationChecker (v : CertificateValidator) : RevocationChecker :=
  ⟨v.lists, v.policy.crlCountryFallback⟩

/-- Checks one signature: a finding about the child if it does not verify. -/
def signatureFinding (v : CertificateValidator) (child parent : Certificate) :
    Except Error (List Finding) := do
  if ← v.verifier.certificate child parent then pure []
  else
    pure [.about child .signatureInvalid
      ("signature does not verify under '" ++ parent.subject ++ "'")]

/-- The anchor, if its name says that it issued the certificate. -/
def directAnchor (c : Certificate) (anchor : Option Certificate) : Option Certificate :=
  anchor.filter fun a => DistinguishedName.same a.subject c.issuer

/-- The signature findings of one link. The link from the certificate to the direct anchor is passed
over, because it is checked before. -/
def linkFinding (v : CertificateValidator) (c : Certificate) (direct : Option Certificate)
    (child parent : Certificate) : Except Error (List Finding) :=
  if child.fingerprint == c.fingerprint && direct.any (·.fingerprint == parent.fingerprint) then
    .ok []
  else v.signatureFinding child parent

/-- The signature findings along some links. -/
def linkFindings (v : CertificateValidator) (c : Certificate) (direct : Option Certificate) :
    List (Certificate × Certificate) → Except Error (List Finding)
  | [] => .ok []
  | (child, parent) :: rest => do
      let here ← v.linkFinding c direct child parent
      pure (here ++ (← v.linkFindings c direct rest))

/-- The signature findings: against the anchor where it is the direct issuer, then along every other
link of the chain. -/
def signatureFindings (v : CertificateValidator) (c : Certificate) (anchor : Option Certificate)
    (chain : Option TrustChain) : Except Error (List Finding) := do
  let direct := directAnchor c anchor
  let first ← direct.elim (pure []) (v.signatureFinding c)
  let rest ← chain.elim (pure []) fun chain => v.linkFindings c direct chain.links
  pure (first ++ rest)

/-- Whoever issues another certificate of the chain must assert that it is an authority. -/
def issuerFindings (chain : TrustChain) : List Finding :=
  (chain.links.filter fun (_, parent) => !parent.assertsCa).map fun (child, parent) =>
    .about parent .basicConstraintsMismatch
      ("issuer of '" ++ child.subject ++ "' does not assert cA")

/-- What is known of the entry of a revoked certificate. -/
def revocationText (details : RevocationDetails) : String :=
  let date := match details.date with
    | some date => date.withOffset
    | none => "unknown date"
  let reason := match details.reason with
    | some reason => reason.display
    | none => "unspecified"
  "serial " ++ details.serial ++ " revoked on " ++ date ++ " (" ++ reason ++ ") per CRL " ++
    details.crlId

/-- The finding that a revocation check gives rise to. -/
def revocationFindings (c : Certificate) (check : RevocationCheck) : List Finding :=
  if check.revoked then
    [.about c .revoked ((check.details.map revocationText).getD "certificate is revoked")]
  else []

/-- The chain of the certificate, or the finding that says why there is none. -/
def chainOrFinding (v : CertificateValidator) (c : Certificate) (anchor : Option Certificate) :
    Except Error (Option TrustChain × List Finding) :=
  match v.chainBuilder.build c anchor v.policy.maxChainDepth with
  | .ok chain => .ok (some chain, [])
  | .error (.invalid finding) => .ok (none, [finding])
  | .error (.operational e) => .error e

/-- The revocation check, which takes a chain and someone who asks for it. -/
def checkIfAsked (v : CertificateValidator) (now : Timestamp) (c : Certificate)
    (chain : Option TrustChain) (checkRevocation : Bool) : Except Error (Option RevocationCheck) :=
  if chain.isSome && checkRevocation then (v.revocationChecker.check c now).map some else .ok none

/-- Validates a certificate at an instant. -/
def validate (v : CertificateValidator) (now : Timestamp) (c : Certificate)
    (anchor : Option Certificate) (checkRevocation : Bool) : Except Error ValidationReport := do
  let (chain, chainFindings) ← v.chainOrFinding c anchor
  let signatures ← v.signatureFindings c anchor chain
  let revocation ← v.checkIfAsked now c chain checkRevocation
  pure {
    findings := c.ownFindings now ++ chainFindings ++ signatures ++
      chain.elim [] issuerFindings ++ revocation.elim [] (revocationFindings c)
    chain := chain
    revocation := revocation
    validatedAt := now }

/-- The direct check of a signer: it must name the authority as its issuer and verify under its
key. -/
def checkDirect (v : CertificateValidator) (dsc csca : Certificate) : Except Error Unit := do
  if !DistinguishedName.same dsc.issuer csca.subject then
    throw (.chainValidation ("issuer '" ++ dsc.issuer ++ "' does not match CSCA subject '" ++
      csca.subject ++ "'"))
  if !(← v.verifier.certificate dsc csca) then
    throw (.chainValidation ("signature of '" ++ dsc.subject ++ "' does not verify under '" ++
      csca.subject ++ "'"))

end CertificateValidator

end Mrtd
