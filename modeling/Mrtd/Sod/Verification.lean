import Mrtd.Repository
import Mrtd.Signature.Verifier
import Mrtd.Sod.SecurityObject

/-!
Verification of a document security object: its signer, its digest and its signature. Whatever is
wrong is itemized; whether the signer is trusted is another question.
-/

namespace Mrtd.Sod

/-- The kind of an error. -/
inductive SodErrorCode where
  | decodeFailed
  | unsupportedAlgorithm
  | signerNotFound
  | contentDigestMismatch
  | signatureInvalid
  | repositoryUnavailable
deriving DecidableEq, Repr

namespace SodErrorCode

def name : SodErrorCode → String
  | decodeFailed => "DECODE_FAILED"
  | unsupportedAlgorithm => "UNSUPPORTED_ALGORITHM"
  | signerNotFound => "SIGNER_NOT_FOUND"
  | contentDigestMismatch => "CONTENT_DIGEST_MISMATCH"
  | signatureInvalid => "SIGNATURE_INVALID"
  | repositoryUnavailable => "REPOSITORY_UNAVAILABLE"

def all : List SodErrorCode :=
  [decodeFailed, unsupportedAlgorithm, signerNotFound, contentDigestMismatch, signatureInvalid,
    repositoryUnavailable]

/-- Kinds that say that the security object could not be judged at all. -/
def isUnevaluable : SodErrorCode → Bool
  | decodeFailed | unsupportedAlgorithm => true
  | _ => false

end SodErrorCode

/-- One thing that is wrong. -/
structure SodError where
  code : SodErrorCode
  message : String
deriving DecidableEq, Repr

namespace SodError

def display (e : SodError) : String := e.code.name ++ ": " ++ e.message

/-- An operational failure as an error of a security object. -/
def ofError : Error → SodError
  | .unsupportedAlgorithm what =>
      ⟨.unsupportedAlgorithm, (Error.unsupportedAlgorithm what).message⟩
  | .repository reason => ⟨.repositoryUnavailable, reason⟩
  | e => ⟨.decodeFailed, e.message⟩

end SodError

/-- What verification found. -/
structure SodVerification where
  algorithm : Option SignatureAlgorithm
  /-- What is known of the content, if it could be decoded. -/
  table : Option SecurityTable
  signer : Option Certificate
  /-- Without errors the security object is valid. -/
  errors : List SodError
deriving DecidableEq, Repr

namespace SodVerification

def isValid (v : SodVerification) : Bool := v.errors.isEmpty

/-- The first error of a kind. -/
def error? (v : SodVerification) (code : SodErrorCode) : Option SodError :=
  v.errors.find? (·.code == code)

/-- The security object could not be judged at all. -/
def isUnevaluable (v : SodVerification) : Bool := v.errors.any (·.code.isUnevaluable)

/-- The digests listed for data groups. -/
def digests (v : SodVerification) : List (Nat × Bytes) :=
  (v.table.map (·.digests)).getD []

/-- Nothing could be decoded. -/
def failed (e : Error) : SodVerification := ⟨none, none, none, [.ofError e]⟩

end SodVerification

/-- What verification depends on. -/
structure SodVerifier where
  certificates : CertificateRepository
  verifier : SignatureVerifier
  requireEmbeddedSigner : Bool

namespace SodVerifier

/-- The certificate of the signer: embedded, or looked up by issuer and serial number. -/
def resolveSigner (v : SodVerifier) (so : SecurityObject) : Except SodError Certificate :=
  match so.embeddedSigner with
  | some c => .ok c
  | none =>
      if v.requireEmbeddedSigner then
        .error ⟨.signerNotFound, "no signer certificate embedded in the SOD"⟩
      else
        match so.signerId with
        | .subjectKeyId _ =>
            .error ⟨.signerNotFound, "signer identified by subjectKeyIdentifier and not embedded"⟩
        | .issuerAndSerial issuer serial =>
            match v.certificates.findBySerialAndIssuer serial issuer with
            | .ok (some c) => .ok c
            | .ok none => .error ⟨.signerNotFound,
                "no certificate with serial " ++ serial ++ " issued by '" ++ issuer ++ "'"⟩
            | .error e => .error (.ofError e)

/-- The signed digest must be that of the content. -/
def digestErrors (so : SecurityObject) : List SodError :=
  match so.signedAttributes with
  | none => []
  | some attributes =>
      let computed := so.digestAlgorithm.digest so.content
      if computed = attributes.messageDigest then []
      else [⟨.contentDigestMismatch, "messageDigest " ++ attributes.messageDigest.toHex ++
        " does not match " ++ so.digestAlgorithm.name ++ " of the security object " ++
        computed.toHex⟩]

/-- The signature must verify under the key of the signer. -/
def signatureErrors (v : SodVerifier) (so : SecurityObject) (algorithm : SignatureAlgorithm)
    (signer : Certificate) : List SodError :=
  match v.verifier.content signer.publicKey algorithm so.signedBytes so.signature with
  | .ok true => []
  | .ok false => [⟨.signatureInvalid,
      algorithm.name ++ " signature does not verify under '" ++ signer.subject ++ "'"⟩]
  | .error e => [.ofError e]

/-- The error of a step that failed. -/
def errorOf {α : Type} : Except SodError α → List SodError
  | .ok _ => []
  | .error e => [e]

/-- Verifies a decoded security object. -/
def verifyDecoded (v : SodVerifier) (so : SecurityObject) : SodVerification :=
  let algorithm := (SignatureAlgorithm.ofOid so.signatureAlgorithm so.digestAlgorithm).mapError
    SodError.ofError
  let signer := v.resolveSigner so
  let signature := match algorithm, signer with
    | .ok algorithm, .ok signer => v.signatureErrors so algorithm signer
    | _, _ => []
  { algorithm := algorithm.toOption
    table := some so.table
    signer := signer.toOption
    errors := errorOf algorithm ++ errorOf signer ++ digestErrors so ++ signature }

/-- Decodes and verifies a security object. -/
def verify (v : SodVerifier) (octets : Bytes) : SodVerification :=
  match SecurityObject.decode octets with
  | .ok so => v.verifyDecoded so
  | .error e => .failed e

end SodVerifier

end Mrtd.Sod
