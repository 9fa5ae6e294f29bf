import Mrtd.Certificate.Basic

/-!
Findings: negative judgements on a certificate, reported as data.
-/

namespace Mrtd

/-- What is wrong. -/
inductive FindingKind where
  | signatureInvalid
  | expired
  | notYetValid
  | basicConstraintsMismatch
  | keyUsageMismatch
  | revoked
  | chainBroken
  | chainTooLong
  | trustAnchorNotFound
deriving DecidableEq, Repr

namespace FindingKind

def name : FindingKind → String
  | signatureInvalid => "SIGNATURE_INVALID"
  | expired => "EXPIRED"
  | notYetValid => "NOT_YET_VALID"
  | basicConstraintsMismatch => "BASIC_CONSTRAINTS_MISMATCH"
  | keyUsageMismatch => "KEY_USAGE_MISMATCH"
  | revoked => "REVOKED"
  | chainBroken => "CHAIN_BROKEN"
  | chainTooLong => "CHAIN_TOO_LONG"
  | trustAnchorNotFound => "TRUST_ANCHOR_NOT_FOUND"

def all : List FindingKind :=
  [signatureInvalid, expired, notYetValid, basicConstraintsMismatch, keyUsageMismatch, revoked,
    chainBroken, chainTooLong, trustAnchorNotFound]

/-- Kinds that say that no chain could be built. -/
def isChainFailure : FindingKind → Bool
  | chainBroken | chainTooLong | trustAnchorNotFound => true
  | _ => false

end FindingKind

/-- A finding and the certificate it is about. -/
structure Finding where
  kind : FindingKind
  message : String
  subject : String
  fingerprint : String
deriving DecidableEq, Repr

namespace Finding

/-- A finding about a certificate. -/
def about (c : Certificate) (kind : FindingKind) (message : String) : Finding :=
  ⟨kind, message, c.subject, c.fingerprint⟩

def display (f : Finding) : String :=
  f.kind.name ++ ": " ++ f.message ++ " (" ++ f.subject ++ ")"

end Finding

end Mrtd
