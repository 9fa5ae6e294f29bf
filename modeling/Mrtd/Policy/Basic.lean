import Mrtd.Certificate.Basic

/-!
Policies of validation and of Passive Authentication, with their defaults.
-/

namespace Mrtd

/-- Which signers may act as issuers. -/
structure CrossCertificationPolicy where
  allowDscIssuers : Bool := false
  allowMlscIssuers : Bool := false
deriving DecidableEq, Repr

namespace CrossCertificationPolicy

/-- Certificates of this role may issue others. -/
def allowsIssuer (p : CrossCertificationPolicy) : CertificateType → Bool
  | .csca => true
  | .dsc | .dscNc => p.allowDscIssuers
  | .mlsc => p.allowMlscIssuers

end CrossCertificationPolicy

/-- The policy of certificate validation. -/
structure ValidationPolicy where
  /-- The greatest number of issuer links. -/
  maxChainDepth : Nat := 5
  /-- Revocation lists are consulted once a chain is built. -/
  checkRevocation : Bool := true
  /-- The list of the country stands in where the issuer has none. -/
  crlCountryFallback : Bool := true
  crossCertification : CrossCertificationPolicy := {}
  /-- An expired signer does not fail Passive Authentication. -/
  tolerateExpiredSigner : Bool := false
deriving DecidableEq, Repr

namespace ValidationPolicy

/-- A policy that allows no issuer at all is refused. -/
def check (p : ValidationPolicy) : Except Error Unit :=
  if p.maxChainDepth = 0 then .error (.config "max_chain_depth must be at least 1") else .ok ()

end ValidationPolicy

/-- The policy of Passive Authentication. -/
structure AuthenticationPolicy where
  validation : ValidationPolicy := {}
  /-- The signer must be embedded in the document; it is not looked up elsewhere. -/
  requireEmbeddedSigner : Bool := false
deriving DecidableEq, Repr

end Mrtd
