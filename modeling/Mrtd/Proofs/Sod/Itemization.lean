import Mrtd.Proofs.Sod.Verdict

/-!
What the errors in a verdict on a security object say. That no signer is found, that the signed
digest is another one and that the signature does not verify are judgements; each is made by one
step of the verification, and what keeps a step from judging is filed under none of their kinds. So
each judgement is among the errors exactly if its step made it, whatever the other steps came to.
-/

namespace Mrtd.Sod

/-- Kinds of errors that are judgements, and do not say that something could not be judged. -/
def SodErrorCode.isJudgement : SodErrorCode → Bool
  | signerNotFound | contentDigestMismatch | signatureInvalid => true
  | _ => false

theorem SodError.code_ofError_ne {code : SodErrorCode} (hcode : code.isJudgement = true)
    {failure : Error} : (SodError.ofError failure).code ≠ code := by
  rintro rfl
  cases failure <;> cases hcode

/-- An error of some kind is among the errors. -/
def SodVerification.Reports (verdict : SodVerification) (code : SodErrorCode) : Prop :=
  ∃ e ∈ verdict.errors, e.code = code

namespace SodVerifier

variable {v : SodVerifier} {so : SecurityObject} {c : Certificate} {code : SodErrorCode}
  {algorithm : SignatureAlgorithm} {e : SodError} {issuer serial : String}

/-- The signer is looked up under an issuer and a serial number: it is not embedded, and does not
have to be. -/
structure LooksUp (v : SodVerifier) (so : SecurityObject) (issuer serial : String) : Prop where
  not_embedded : so.embeddedSigner = none
  not_required : v.requireEmbeddedSigner = false
  named : so.signerId = .issuerAndSerial issuer serial

/-- A certificate is found to be the signer: it is embedded, or it is what the look-up finds. -/
def Finds (v : SodVerifier) (so : SecurityObject) (c : Certificate) : Prop :=
  so.embeddedSigner = some c ∨
    ∃ issuer serial, v.LooksUp so issuer serial ∧
      v.certificates.findBySerialAndIssuer serial issuer = .ok (some c)

/-- The look-up of the signer fails. -/
def LookupFails (v : SodVerifier) (so : SecurityObject) (failure : Error) : Prop :=
  ∃ issuer serial, v.LooksUp so issuer serial ∧
    v.certificates.findBySerialAndIssuer serial issuer = .error failure

theorem finds_iff : v.Finds so c ↔ v.resolveSigner so = .ok c := by
  rw [resolveSigner_eq_ok_iff]
  refine or_congr_right ?_
  constructor
  · rintro ⟨issuer, serial, hlooked, hfound⟩
    exact ⟨hlooked.not_embedded, hlooked.not_required, issuer, serial, hlooked.named, hfound⟩
  · rintro ⟨hnone, hallowed, issuer, serial, hid, hfound⟩
    exact ⟨issuer, serial, ⟨hnone, hallowed, hid⟩, hfound⟩

/-- The signer that a verdict names is the one that is found. -/
theorem signer_verifyDecoded_iff : (v.verifyDecoded so).signer = some c ↔ v.Finds so c := by
  rw [finds_iff]
  exact toOption_eq_some_iff

/-- Only one look-up is made. -/
theorem LooksUp.eq {issuer' serial' : String} (h : v.LooksUp so issuer serial)
    (h' : v.LooksUp so issuer' serial') : issuer = issuer' ∧ serial = serial' :=
  SignerId.issuerAndSerial.inj (h.named.symm.trans h'.named)

theorem resolveSigner_eq_error (h : v.resolveSigner so = .error e) :
    (e.code = .signerNotFound ∧ ¬ ∃ failure, v.LookupFails so failure) ∨
      ∃ failure, v.LookupFails so failure ∧ e = .ofError failure := by
  unfold resolveSigner at h
  split at h
  · cases h
  rename_i hnone
  split at h
  · rename_i hrequired
    obtain rfl := Except.error.inj h
    refine .inl ⟨rfl, ?_⟩
    rintro ⟨failure, issuer, serial, hlooked, _⟩
    rw [hlooked.not_required] at hrequired
    cases hrequired
  rename_i hallowed
  split at h
  · rename_i id hid
    obtain rfl := Except.error.inj h
    refine .inl ⟨rfl, ?_⟩
    rintro ⟨failure, issuer, serial, hlooked, _⟩
    cases hid.symm.trans hlooked.named
  rename_i issuer serial hid
  have hlooked : v.LooksUp so issuer serial := ⟨hnone, eq_false_of_ne_true hallowed, hid⟩
  split at h
  · cases h
  · rename_i hfound
    obtain rfl := Except.error.inj h
    refine .inl ⟨rfl, ?_⟩
    rintro ⟨failure, issuer', serial', hlooked', hfails⟩
    obtain ⟨rfl, rfl⟩ := hlooked.eq hlooked'
    cases hfound.symm.trans hfails
  · rename_i failure hfails
    obtain rfl := Except.error.inj h
    exact .inr ⟨failure, ⟨issuer, serial, hlooked, hfails⟩, rfl⟩

/-- The steps file their errors one after the other. -/
theorem reports_verifyDecoded_iff :
    (v.verifyDecoded so).Reports code ↔
      (∃ failure, SignatureAlgorithm.ofOid so.signatureAlgorithm so.digestAlgorithm =
          .error failure ∧ (SodError.ofError failure).code = code) ∨
        (∃ e, v.resolveSigner so = .error e ∧ e.code = code) ∨
        (∃ e ∈ digestErrors so, e.code = code) ∨
        ∃ algorithm signer,
          SignatureAlgorithm.ofOid so.signatureAlgorithm so.digestAlgorithm = .ok algorithm ∧
          v.resolveSigner so = .ok signer ∧
          ∃ e ∈ v.signatureErrors so algorithm signer, e.code = code := by
  unfold SodVerification.Reports verifyDecoded
  cases SignatureAlgorithm.ofOid so.signatureAlgorithm so.digestAlgorithm with
  | error failure => cases v.resolveSigner so <;> simp [errorOf, or_and_right, exists_or]
  | ok algorithm => cases v.resolveSigner so <;> simp [errorOf, or_and_right, exists_or]

theorem exists_mem_digestErrors_iff :
    (∃ e ∈ digestErrors so, e.code = code) ↔
      code = .contentDigestMismatch ∧
        ∃ signed ∈ so.signedAttributes,
          so.digestAlgorithm.digest so.content ≠ signed.messageDigest := by
  unfold digestErrors
  cases so.signedAttributes with
  | none => simp
  | some signed =>
      by_cases hdigest : so.digestAlgorithm.digest so.content = signed.messageDigest
      · simp [hdigest]
      · simp [hdigest, eq_comm (a := code)]

/-- The judgement on a signature is that it does not verify. -/
theorem exists_mem_signatureErrors_iff (hcode : code.isJudgement = true) :
    (∃ e ∈ v.signatureErrors so algorithm c, e.code = code) ↔
      code = .signatureInvalid ∧
        v.verifier.content c.publicKey algorithm so.signedBytes so.signature = .ok false := by
  unfold signatureErrors
  rcases v.verifier.content c.publicKey algorithm so.signedBytes so.signature with
    failure | verifies
  · simp [SodError.code_ofError_ne hcode]
  · cases verifies <;> simp [eq_comm]

/-- The judgement on a signer is that none is found although no look-up fails. -/
theorem exists_resolveSigner_error_iff (hcode : code.isJudgement = true) :
    (∃ e, v.resolveSigner so = .error e ∧ e.code = code) ↔
      code = .signerNotFound ∧ (¬ ∃ signer, v.Finds so signer) ∧
        ¬ ∃ failure, v.LookupFails so failure := by
  simp only [finds_iff]
  cases hsigner : v.resolveSigner so with
  | ok signer => simp
  | error e =>
      rcases resolveSigner_eq_error hsigner with ⟨hnotFound, havailable⟩ | ⟨failure, hfails, rfl⟩
      · simp [hnotFound, havailable, eq_comm]
      · have hfailed : ∃ failure, v.LookupFails so failure := ⟨failure, hfails⟩
        simp [SodError.code_ofError_ne hcode, hfailed]

/-- Each judgement is reported exactly if the one step made it that can. -/
theorem reports_judgement_iff (hcode : code.isJudgement = true) :
    (v.verifyDecoded so).Reports code ↔
      (code = .signerNotFound ∧ (¬ ∃ signer, v.Finds so signer) ∧
          ¬ ∃ failure, v.LookupFails so failure) ∨
        (code = .contentDigestMismatch ∧
          ∃ signed ∈ so.signedAttributes,
            so.digestAlgorithm.digest so.content ≠ signed.messageDigest) ∨
        (code = .signatureInvalid ∧ ∃ algorithm signer,
          SignatureAlgorithm.ofOid so.signatureAlgorithm so.digestAlgorithm = .ok algorithm ∧
          v.Finds so signer ∧
          v.verifier.content signer.publicKey algorithm so.signedBytes so.signature =
            .ok false) := by
  have hother : ¬ ∃ failure, SignatureAlgorithm.ofOid so.signatureAlgorithm so.digestAlgorithm =
      .error failure ∧ (SodError.ofError failure).code = code := by
    rintro ⟨failure, _, hsame⟩
    exact SodError.code_ofError_ne hcode hsame
  rw [reports_verifyDecoded_iff, exists_resolveSigner_error_iff hcode, exists_mem_digestErrors_iff]
  simp only [hother, false_or, exists_mem_signatureErrors_iff hcode, finds_iff]
  refine or_congr_right (or_congr_right ?_)
  constructor
  · rintro ⟨algorithm, signer, halgorithm, hsigner, hinvalid, hcontent⟩
    exact ⟨hinvalid, algorithm, signer, halgorithm, hsigner, hcontent⟩
  · rintro ⟨hinvalid, algorithm, signer, halgorithm, hsigner, hcontent⟩
    exact ⟨algorithm, signer, halgorithm, hsigner, hinvalid, hcontent⟩

/-- A verdict is valid exactly if every step was taken and passed. Whatever the other steps come to,
it reports that the digest is another one, that the signature does not verify or that there is no
signer exactly if that is so. What is known of the content is always told. -/
theorem verifyDecoded_itemizes (v : SodVerifier) (so : SecurityObject) :
    ((v.verifyDecoded so).isValid = true ↔
      ∃ algorithm signer,
        SignatureAlgorithm.ofOid so.signatureAlgorithm so.digestAlgorithm = .ok algorithm ∧
        v.Finds so signer ∧
        (∀ signed ∈ so.signedAttributes,
          so.digestAlgorithm.digest so.content = signed.messageDigest) ∧
        v.verifier.content signer.publicKey algorithm so.signedBytes so.signature = .ok true) ∧
      ((v.verifyDecoded so).Reports .contentDigestMismatch ↔
        ∃ signed ∈ so.signedAttributes,
          so.digestAlgorithm.digest so.content ≠ signed.messageDigest) ∧
      ((v.verifyDecoded so).Reports .signatureInvalid ↔
        ∃ algorithm signer,
          SignatureAlgorithm.ofOid so.signatureAlgorithm so.digestAlgorithm = .ok algorithm ∧
          v.Finds so signer ∧
          v.verifier.content signer.publicKey algorithm so.signedBytes so.signature = .ok false) ∧
      ((v.verifyDecoded so).Reports .signerNotFound ↔
        (¬ ∃ signer, v.Finds so signer) ∧ ¬ ∃ failure, v.LookupFails so failure) ∧
      (v.verifyDecoded so).table = some so.table := by
  refine ⟨?_, ?_, ?_, ?_, rfl⟩
  · simp only [finds_iff]
    exact isValid_verifyDecoded_iff
  · rw [reports_judgement_iff rfl]
    simp
  · rw [reports_judgement_iff rfl]
    simp
  · rw [reports_judgement_iff rfl]
    simp

end SodVerifier

end Mrtd.Sod
