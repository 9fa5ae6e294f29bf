import Mrtd.Authentication
import Mrtd.Format.Value

/-!
Records: the values in which certificates, policies and results are reported.
-/

namespace Mrtd

open Format

namespace Format.Value

/-- A value that may be missing. -/
def ofOption {α : Type} (f : α → Value) : Option α → Value
  | some a => f a
  | none => null

def ofText? : Option String → Value := ofOption text

def ofNat (n : Nat) : Value := integer n

def ofBytes (b : Bytes) : Value := text b.toHex

def ofTime (t : Timestamp) : Value := text t.zulu

def ofList {α : Type} (f : α → Value) (as : List α) : Value := array (as.map f)

/-- Octets by number. -/
def ofDigests (digests : List (Nat × Bytes)) : Value :=
  table (digests.map fun (n, digest) => (toString n, ofBytes digest))

end Format.Value

def Curve.record : Curve → Value
  | p256 => .text "P256"
  | p384 => .text "P384"
  | other oid => .table [("Other", .text oid)]

def KeyAlgorithm.record : KeyAlgorithm → Value
  | rsa => .text "Rsa"
  | rsaPss => .text "RsaPss"
  | ec curve => .table [("Ec", curve.record)]
  | ed25519 => .text "Ed25519"
  | other oid => .table [("Other", .text oid)]

def PublicKey.record (k : PublicKey) : Value := .table [
  ("algorithm", k.algorithm.record), ("spki_der", .ofBytes k.info), ("key", .ofBytes k.key)]

def BasicConstraints.record (bc : BasicConstraints) : Value := .table [
  ("ca", .boolean bc.ca), ("path_len", .ofOption .ofNat bc.pathLength)]

def KeyUsage.record (ku : KeyUsage) : Value := .table [
  ("digital_signature", .boolean ku.digitalSignature),
  ("non_repudiation", .boolean ku.nonRepudiation),
  ("key_cert_sign", .boolean ku.keyCertSign), ("crl_sign", .boolean ku.crlSign)]

namespace Certificate

/-- The fields in front of the encoding, and those behind it. -/
def recordFields (c : Certificate) : List (String × Value) := [
  ("cert_type", .text c.type.name),
  ("subject_dn", .text c.subject),
  ("issuer_dn", .text c.issuer),
  ("serial_number", .text c.serial),
  ("country_code", .ofText? c.country),
  ("not_before", .ofTime c.notBefore),
  ("not_after", .ofTime c.notAfter),
  ("public_key", c.publicKey.record),
  ("basic_constraints", .ofOption BasicConstraints.record c.basicConstraints),
  ("key_usage", .ofOption KeyUsage.record c.keyUsage),
  ("subject_key_identifier", .ofText? c.subjectKeyId)]

/-- The record of a certificate, with its state at an instant. -/
def record (now : Timestamp) (c : Certificate) : Value := .table (
  [("fingerprint", .text c.fingerprint), ("der", .ofBytes c.der)] ++ c.recordFields ++
  [("status", .text (c.status now false).name), ("upload_id", .ofText? c.uploadId),
    ("stored_in_ldap", .boolean c.storedInLdap)])

end Certificate

def Finding.record (f : Finding) : Value := .table [
  ("kind", .text f.kind.name), ("message", .text f.message), ("subject_dn", .text f.subject),
  ("fingerprint", .text f.fingerprint)]

def RevocationEntry.record (e : RevocationEntry) : Value := .table [
  ("serial_number", .text e.serial), ("revocation_date", .ofTime e.date),
  ("reason", .ofOption (fun r => .text r.name) e.reason)]

def RevocationList.record (crl : RevocationList) : Value := .table [
  ("id", .text crl.id), ("issuer_dn", .text crl.issuer), ("country_code", .ofText? crl.country),
  ("this_update", .ofTime crl.thisUpdate), ("next_update", .ofOption .ofTime crl.nextUpdate),
  ("entries", .table (crl.entries.map fun (serial, e) => (serial, e.record))),
  ("is_valid", .boolean crl.isValid)]

def CrossCertificationPolicy.record (p : CrossCertificationPolicy) : Value := .table [
  ("allow_dsc_issuers", .boolean p.allowDscIssuers),
  ("allow_mlsc_issuers", .boolean p.allowMlscIssuers)]

def ValidationPolicy.record (p : ValidationPolicy) : Value := .table [
  ("max_chain_depth", .ofNat p.maxChainDepth), ("check_revocation", .boolean p.checkRevocation),
  ("crl_country_fallback", .boolean p.crlCountryFallback),
  ("cross_certification", p.crossCertification.record),
  ("tolerate_expired_signer", .boolean p.tolerateExpiredSigner)]

def AuthenticationPolicy.record (p : AuthenticationPolicy) : Value := .table [
  ("validation", p.validation.record),
  ("require_embedded_signer", .boolean p.requireEmbeddedSigner)]

def SignatureAlgorithm.record : SignatureAlgorithm → Value
  | rsaPkcs1 d => .table [("RsaPkcs1", .text d.shortName)]
  | rsaPss d => .table [("RsaPss", .text d.shortName)]
  | ecdsa d => .table [("Ecdsa", .text d.shortName)]

def RevocationDetails.record (d : RevocationDetails) : Value := .table [
  ("serial_number", .text d.serial), ("crl_id", .text d.crlId), ("crl_issuer", .text d.crlIssuer),
  ("crl_source", .text d.source.name), ("this_update", .ofTime d.thisUpdate),
  ("next_update", .ofOption .ofTime d.nextUpdate), ("revocation_date", .ofOption .ofTime d.date),
  ("reason", .ofOption (fun r => .text r.name) d.reason)]

def RevocationCheck.record (r : RevocationCheck) : Value := .table [
  ("revoked", .boolean r.revoked), ("checked", .boolean r.checked),
  ("crl_status", .text r.status.name),
  ("details", .ofOption RevocationDetails.record r.details)]

def TrustChain.record (now : Timestamp) (chain : TrustChain) : Value := .table [
  ("certificates", .ofList (Certificate.record now) chain.certificates)]

def ValidationReport.record (r : ValidationReport) : Value := .table [
  ("findings", .ofList Finding.record r.findings),
  ("chain", .ofOption (TrustChain.record r.validatedAt) r.chain),
  ("revocation", .ofOption RevocationCheck.record r.revocation),
  ("validated_at", .ofTime r.validatedAt)]

def DigestAlgorithm.record (a : DigestAlgorithm) : Value := .text a.shortName

namespace Sod

def LdsVersion.record : LdsVersion → Value
  | v0 => .table [("version", .text "V0")]
  | v1 lds unicode => .table [("version", .text "V1"), ("lds_version", .text lds),
      ("unicode_version", .text unicode)]

def SignerId.record : SignerId → Value
  | issuerAndSerial issuer serial => .table [("IssuerAndSerial", .table [
      ("issuer_dn", .text issuer), ("serial_number", .text serial)])]
  | subjectKeyId id => .table [("SubjectKeyIdentifier", .text id)]

def SignedAttributes.record (a : SignedAttributes) : Value := .table [
  ("message_digest", .ofBytes a.messageDigest), ("content_type", .ofText? a.contentType)]

/-- The record of a security object, without the octets of its content. -/
def SecurityObject.record (now : Timestamp) (so : SecurityObject) : Value := .table [
  ("embedded_signer", .ofOption (Certificate.record now) so.embeddedSigner),
  ("signer_id", so.signerId.record),
  ("digest_algorithm", so.digestAlgorithm.record),
  ("signature_algorithm_oid", .text so.signatureAlgorithm),
  ("hash_algorithm", so.table.algorithm.record),
  ("data_group_hashes", .ofDigests so.table.digests),
  ("lds_version", so.table.version.record),
  ("signed_attributes", .ofOption SignedAttributes.record so.signedAttributes),
  ("signature", .ofBytes so.signature)]

def SodError.record (e : SodError) : Value := .table [
  ("code", .text e.code.name), ("message", .text e.message)]

def SodVerification.record (v : SodVerification) : Value := .table [
  ("valid", .boolean v.isValid),
  ("signature_algorithm", .ofOption (fun a => .text a.name) v.algorithm),
  ("hash_algorithm", .ofOption (fun t => t.algorithm.record) v.table),
  ("errors", .ofList SodError.record v.errors)]

end Sod

def DataGroupVerdict.record (v : DataGroupVerdict) : Value := .table [
  ("data_group", .ofNat v.number), ("valid", .boolean v.valid), ("expected_hash", .text v.expected),
  ("actual_hash", .text v.actual)]

def DataGroupReport.record (r : DataGroupReport) : Value := .table [
  ("total_groups", .ofNat r.total), ("valid_groups", .ofNat r.validCount),
  ("invalid_groups", .ofNat r.invalidCount), ("hash_algorithm", r.algorithm.record),
  ("details", .table (r.verdicts.map fun v => (toString v.number, v.record))),
  ("not_presented", .ofList .ofNat r.notPresented)]

def SignerVerdict.record (v : SignerVerdict) : Value := .table [
  ("valid", .boolean v.valid),
  ("dsc_subject", .ofText? (v.signer.map (·.subject))),
  ("dsc_serial_number", .ofText? (v.signer.map (·.serial))),
  ("dsc_not_before", .ofOption .ofTime (v.signer.map (·.notBefore))),
  ("dsc_not_after", .ofOption .ofTime (v.signer.map (·.notAfter))),
  ("csca_subject", .ofText? (v.authority.map (·.subject))),
  ("csca_serial_number", .ofText? (v.authority.map (·.serial))),
  ("revoked", .boolean v.isRevoked),
  ("crl_checked", .boolean v.isChecked),
  ("crl_status", .ofText? (v.revocation.map (·.status.name))),
  ("revocation", .ofOption RevocationDetails.record (v.revocation.bind (·.details))),
  ("findings", .ofList Finding.record v.findings)]

def RequestMetadata.record (m : RequestMetadata) : Value := .table [
  ("requested_by", .ofText? m.requestedBy), ("ip_address", .ofText? m.ipAddress),
  ("user_agent", .ofText? m.userAgent)]

/-- What is particular to one run: its identifier, its instant and how long it took. -/
structure Occasion where
  id : String
  now : Timestamp
  milliseconds : Nat
deriving DecidableEq, Repr

def AuthenticationReport.record (occasion : Occasion) (r : AuthenticationReport) : Value := .table [
  ("verification_id", .text occasion.id),
  ("status", .text r.status.name),
  ("passed", .boolean r.passed),
  ("document_number", .text r.documentNumber),
  ("issuing_country", .text r.issuingCountry),
  ("verified_at", .ofTime occasion.now),
  ("processing_duration_ms", .ofNat occasion.milliseconds),
  ("certificate_chain", r.signer.record),
  ("sod_signature", r.signature.record),
  ("data_groups", .ofOption DataGroupReport.record r.dataGroups),
  ("lds_version", .ofOption (fun t => t.version.record) r.signature.table),
  ("error", .ofText? r.error),
  ("metadata", r.metadata.record)]

end Mrtd
