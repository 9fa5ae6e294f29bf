import Mrtd.Cli.Settings
import Mrtd.Format.Boxed
import Mrtd.Text.Width

/-!
Results of commands and how they are printed, for people or as JSON.
-/

namespace Mrtd.Cli

open Format

/-- What a command found. -/
inductive Result where
  /-- The report on a certificate, and whether its revocation was to be checked. -/
  | validated (certificate : Certificate) (report : ValidationReport) (checkRevocation : Bool)
  | authenticated (report : AuthenticationReport)
  | inspected (so : Sod.SecurityObject)
  | settings (s : Settings)
  | settingsPath (path : String)
deriving DecidableEq, Repr

namespace Result

/-- Nothing is wrong with the certificate or the document. -/
def passed : Result → Bool
  | validated _ report _ => report.isValid
  | authenticated report => report.passed
  | inspected _ | settings _ | settingsPath _ => true

/-- A line with a label. -/
def labelled (label value : String) : String := "  " ++ label ++ ": " ++ value

/-- The word for a verdict. -/
def verdict (ok : Bool) : String := if ok then "PASS" else "FAIL"

/-- Findings as a table under an empty line; nothing if there are none. -/
def findingLines (findings : List Finding) : List String :=
  if findings.isEmpty then []
  else "" :: Boxed.lines ["Finding", "Certificate", "Detail"]
    (findings.map fun f => [f.kind.name, f.subject, f.message])

/-- The outcome of the revocation check of a validation. -/
def revocationWord (checkRevocation : Bool) : Option RevocationCheck → String
  | some check =>
      if check.revoked then "REVOKED"
      else if !check.checked then "no CRL available"
      else if check.status = .stale then "not revoked (stale CRL)"
      else "not revoked"
  | none => if checkRevocation then "not checked (no chain)" else "skipped"

/-- The subjects of a chain. -/
def chainWord : Option TrustChain → String
  | some chain => " -> ".intercalate (chain.certificates.map (·.subject))
  | none => "not built"

/-- The report on a certificate. -/
def validationLines (c : Certificate) (report : ValidationReport) (checkRevocation : Bool) :
    List String :=
  ["Certificate: " ++ c.subject, "",
    labelled "Type" c.type.name,
    labelled "Issuer" c.issuer,
    labelled "Serial" c.serial,
    labelled "Fingerprint" c.fingerprint,
    labelled "Validity" (c.notBefore.date ++ " .. " ++ c.notAfter.date),
    labelled "Chain" (chainWord report.chain),
    labelled "Revocation" (revocationWord checkRevocation report.revocation)] ++
  findingLines report.findings ++
  ["", "Result: " ++ verdict report.isValid]

/-- The first and the last eight digits of a digest; short ones stay as they are. -/
def abbreviated (digest : String) : String :=
  if digest.isEmpty then "-"
  else if digest.length ≤ 20 then digest
  else String.ofList (digest.toList.take 8) ++ ".." ++
    String.ofList (digest.toList.drop (digest.length - 8))

/-- Numbers in brackets. -/
def bracketed (numbers : List Nat) : String :=
  "[" ++ ", ".intercalate (numbers.map toString) ++ "]"

/-- The verdicts on data groups. -/
def dataGroupLines (r : DataGroupReport) : List String :=
  [labelled "Data groups" (toString r.validCount ++ "/" ++ toString r.total ++ " valid (" ++
    r.algorithm.name ++ ")")] ++
  (if r.verdicts.isEmpty then []
    else "" :: Boxed.lines ["DG", "Status", "Expected", "Actual"] (r.verdicts.map fun v =>
      [toString v.number, if v.valid then "OK" else "MISMATCH", abbreviated v.expected,
        abbreviated v.actual])) ++
  (if r.notPresented.isEmpty then [] else [labelled "Not presented" (bracketed r.notPresented)])

/-- A version with its parts named. -/
def versionParts : Sod.LdsVersion → String
  | .v0 => "V0"
  | .v1 lds unicode => "V1 \x7b lds_version: " ++ Text.visible lds ++ ", unicode_version: " ++
      Text.visible unicode ++ " \x7d"

/-- The report on a document. -/
def authenticationLines (occasion : Occasion) (r : AuthenticationReport) : List String :=
  let revocation :=
    if r.signer.isRevoked then "REVOKED"
    else if r.signer.isChecked then "not revoked"
    else "no CRL available"
  ["Document: " ++ r.documentNumber ++ " (" ++ r.issuingCountry ++ ")", "",
    labelled "Verification" occasion.id,
    labelled "SOD signature" (verdict r.signature.isValid ++ " " ++
      (r.signature.algorithm.map (·.name)).getD "-")] ++
  r.signature.errors.map (fun e => "    - " ++ e.display) ++
  [labelled "Signer" (verdict (r.signer.valid && !r.signer.isRevoked) ++ " " ++
    (r.signer.signer.map (·.subject)).getD "-")] ++
  (r.signer.authority.map fun c => labelled "CSCA" c.subject).toList ++
  [labelled "Revocation" revocation] ++
  (r.signature.table.map fun t => labelled "LDS" (versionParts t.version)).toList ++
  ((r.dataGroups.map dataGroupLines).getD []) ++
  findingLines r.signer.findings ++
  ((r.error.map fun e => ["", "Could not evaluate: " ++ e]).getD []) ++
  ["", "Result: " ++ r.status.name ++ " in " ++ toString occasion.milliseconds ++ " ms"]

/-- A version in words. -/
def versionWords : Sod.LdsVersion → String
  | .v0 => "V0"
  | .v1 lds unicode => "V1 (LDS " ++ lds ++ ", Unicode " ++ unicode ++ ")"

/-- A signer's name in words. -/
def signerWords : Sod.SignerId → String
  | .issuerAndSerial issuer serial => issuer ++ " / serial " ++ serial
  | .subjectKeyId id => "SKI " ++ id

/-- A decoded security object. -/
def inspectionLines (so : Sod.SecurityObject) : List String :=
  ["Security Object", "",
    labelled "LDS" (versionWords so.table.version),
    labelled "Hash algorithm" so.table.algorithm.name,
    labelled "Digest algorithm" so.digestAlgorithm.name,
    labelled "Signature algorithm" so.signatureAlgorithm,
    labelled "Signer" (signerWords so.signerId),
    labelled "Embedded certificate" ((so.embeddedSigner.map (·.subject)).getD "none"),
    labelled "Signed attributes" (if so.signedAttributes.isSome then "true" else "false"),
    ""] ++
  Boxed.lines ["DG", "Hash"] (so.table.digests.map fun (n, digest) =>
    [toString n, digest.toUpperHex])

/-- A result for people. -/
def lines (occasion : Occasion) : Result → List String
  | validated c report checkRevocation => validationLines c report checkRevocation
  | authenticated report => authenticationLines occasion report
  | inspected so => inspectionLines so
  | settings s => s.lines
  | settingsPath path => [path]

/-- A result as a record. A path has none. -/
def record? (occasion : Occasion) : Result → Option Value
  | validated c report _ => some (.table [
      ("valid", .boolean report.isValid),
      ("subject_dn", .text c.subject),
      ("issuer_dn", .text c.issuer),
      ("serial_number", .text c.serial),
      ("cert_type", .text c.type.name),
      ("fingerprint", .text c.fingerprint),
      ("report", report.record)])
  | authenticated report => some (report.record occasion)
  | inspected so => some (so.record occasion.now)
  | settings s => some s.record
  | settingsPath _ => none

/-- A result as it is printed. -/
def text (format : OutputFormat) (occasion : Occasion) (r : Result) : String :=
  let lines := match format, r.record? occasion with
    | .json, some record => [Json.print record]
    | _, _ => r.lines occasion
  String.join (lines.map (· ++ "\n"))

end Result

end Mrtd.Cli
