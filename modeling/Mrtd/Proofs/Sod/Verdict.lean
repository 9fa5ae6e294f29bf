import Mrtd.Sod.DataGroups
import Mrtd.Sod.Verification

/-!
What the verdicts on a security object and on data groups mean. A security object is valid exactly
if each of its checks was made and passed; a comparison without a group that disagrees found every
group that was presented, with its digest, in the table.
-/

namespace Mrtd

theorem SignatureAlgorithm.eq_of_ofOid_error {oid : String} {digest : DigestAlgorithm} {e : Error}
    (h : ofOid oid digest = .error e) :
    e = .unsupportedAlgorithm ("signature algorithm " ++ oid) := by
  unfold ofOid at h
  split at h <;> cases h
  rfl

namespace Sod

namespace SodVerifier

variable {v : SodVerifier} {so : SecurityObject} {octets : Bytes} {c : Certificate}
  {algorithm : SignatureAlgorithm}

/-- The signer is the embedded one, or one that was looked up where that is allowed. -/
theorem resolveSigner_eq_ok_iff :
    v.resolveSigner so = .ok c ↔
      so.embeddedSigner = some c ∨
        so.embeddedSigner = none ∧ v.requireEmbeddedSigner = false ∧
          ∃ issuer serial, so.signerId = .issuerAndSerial issuer serial ∧
            v.certificates.findBySerialAndIssuer serial issuer = .ok (some c) := by
  unfold resolveSigner
  cases so.embeddedSigner with
  | some embedded => simp
  | none =>
      cases v.requireEmbeddedSigner with
      | true => simp
      | false =>
          cases so.signerId with
          | subjectKeyId id => simp
          | issuerAndSerial issuer serial =>
              have hnamed : (∃ i s, SignerId.issuerAndSerial issuer serial = .issuerAndSerial i s ∧
                    v.certificates.findBySerialAndIssuer s i = .ok (some c)) ↔
                  v.certificates.findBySerialAndIssuer serial issuer = .ok (some c) := by
                constructor
                · rintro ⟨i, s, heq, hfound⟩
                  obtain ⟨rfl, rfl⟩ := SignerId.issuerAndSerial.inj heq
                  exact hfound
                · exact fun hfound => ⟨issuer, serial, rfl, hfound⟩
              rw [hnamed]
              rcases hfound : v.certificates.findBySerialAndIssuer serial issuer with _ | _ | found <;>
                simp [hfound]

/-- An algorithm that is not known is not taken for a repository that fails. -/
theorem find?_errorOf_algorithm :
    (errorOf ((SignatureAlgorithm.ofOid so.signatureAlgorithm so.digestAlgorithm).mapError
      SodError.ofError)).find? (·.code == .repositoryUnavailable) = none := by
  cases hoid : SignatureAlgorithm.ofOid so.signatureAlgorithm so.digestAlgorithm with
  | ok algorithm => rfl
  | error e =>
      obtain rfl := SignatureAlgorithm.eq_of_ofOid_error hoid
      rfl

theorem digestErrors_eq_nil_iff :
    digestErrors so = [] ↔
      ∀ signed ∈ so.signedAttributes,
        so.digestAlgorithm.digest so.content = signed.messageDigest := by
  unfold digestErrors
  cases so.signedAttributes with
  | none => simp
  | some signed => simp

theorem signatureErrors_eq_nil_iff :
    v.signatureErrors so algorithm c = [] ↔
      v.verifier.content c.publicKey algorithm so.signedBytes so.signature = .ok true := by
  unfold signatureErrors
  rcases v.verifier.content c.publicKey algorithm so.signedBytes so.signature with _ | _ | _ <;> simp

/-- A decoded security object is valid exactly if its algorithms are known, its signer is found, the
signed digest is that of the content and the signature verifies under the signer's key. -/
theorem isValid_verifyDecoded_iff :
    (v.verifyDecoded so).isValid = true ↔
      ∃ algorithm signer,
        SignatureAlgorithm.ofOid so.signatureAlgorithm so.digestAlgorithm = .ok algorithm ∧
        v.resolveSigner so = .ok signer ∧
        (∀ signed ∈ so.signedAttributes,
          so.digestAlgorithm.digest so.content = signed.messageDigest) ∧
        v.verifier.content signer.publicKey algorithm so.signedBytes so.signature = .ok true := by
  rw [← digestErrors_eq_nil_iff]
  unfold verifyDecoded SodVerification.isValid
  cases halgorithm : SignatureAlgorithm.ofOid so.signatureAlgorithm so.digestAlgorithm with
  | error e => simp [errorOf]
  | ok algorithm =>
      cases hsigner : v.resolveSigner so with
      | error e => simp [errorOf]
      | ok signer =>
          simp [errorOf, signatureErrors_eq_nil_iff]

/-- Only what can be decoded is valid. -/
theorem decode_of_isValid (h : (v.verify octets).isValid = true) :
    ∃ so, SecurityObject.decode octets = .ok so ∧ v.verify octets = v.verifyDecoded so := by
  unfold verify at h ⊢
  cases hdecode : SecurityObject.decode octets with
  | error e => simp [hdecode, SodVerification.failed, SodVerification.isValid] at h
  | ok so => exact ⟨so, rfl, rfl⟩

end SodVerifier

end Sod

namespace DataGroupReport

variable {algorithm : DigestAlgorithm} {digests presented : List (Nat × Bytes)}
  {group : Nat × Bytes}

theorem valid_judge_iff :
    (judge algorithm digests group).valid = true ↔
      OrderedTable.find? group.1 digests = some (algorithm.digest group.2) := by
  unfold judge
  cases OrderedTable.find? group.1 digests with
  | none => simp
  | some expected => simp

/-- No group disagrees exactly if every group presented is listed with its digest. -/
theorem allValid_compare_iff :
    (compare algorithm digests presented).allValid = true ↔
      ∀ group ∈ OrderedTable.ofList Ord.compare presented,
        OrderedTable.find? group.1 digests = some (algorithm.digest group.2) := by
  rw [allValid_iff]
  simp only [compare, List.forall_mem_map, valid_judge_iff]

theorem presented_of_total (h : 0 < (compare algorithm digests presented).total) :
    OrderedTable.ofList Ord.compare presented ≠ [] := by
  intro hnone
  simp [total, compare, hnone] at h

end DataGroupReport

end Mrtd
