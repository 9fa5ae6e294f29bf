import Mrtd.Proofs.SideBySide

/-!
One certificate, filed under different roles. What a record adds to its certificate is the role it
was filed under and where it came from. Names, keys, windows and signatures are those of the
certificate, so the walk, the signatures and the revocation come out the same for every filing, and
only the checks of the extensions, which ask for the role, may not.
-/

namespace Mrtd

/-- What a record adds to the certificate that it holds. -/
structure Filing where
  type : CertificateType
  uploadId : Option String := none
  storedInLdap : Bool := false

namespace Certificate

variable {c : Certificate} {f : Filing}

/-- The record of the same certificate under another filing. -/
def filedAs (c : Certificate) (f : Filing) : Certificate :=
  { c with type := f.type, uploadId := f.uploadId, storedInLdap := f.storedInLdap }

@[simp] theorem filedAs_type : (c.filedAs f).type = f.type := rfl
@[simp] theorem filedAs_fingerprint : (c.filedAs f).fingerprint = c.fingerprint := rfl
@[simp] theorem isSelfIssued_filedAs : (c.filedAs f).isSelfIssued = c.isSelfIssued := rfl

/-- A record as it is read from its encoding; where it came from may have been noted since. -/
def IsRead (c : Certificate) : Prop :=
  ofDer c.type c.der = .ok { c with uploadId := none, storedInLdap := false }

theorem decode_filedAs (type type' : CertificateType) (der : Bytes) :
    decode type' der = (decode type der).map (·.filedAs { type := type' }) := by
  unfold decode
  cases Asn1.Reader.first? EncodedCertificate.reader der with
  | none => rfl
  | some e =>
      simp only [ofEncoded]
      cases Extension.unique? e.body.extensions Extension.basicConstraints with
      | none => rfl
      | some basic =>
          cases Extension.unique? e.body.extensions Extension.keyUsage with
          | none => rfl
          | some usage =>
              cases usage with
              | none => rfl
              | some raw => cases husage : Extension.keyUsage? raw.value <;> simp [husage] <;> rfl

/-- The role that an encoding is read for is all that is not read. -/
theorem ofDer_filedAs (type type' : CertificateType) (der : Bytes) :
    ofDer type' der = (ofDer type der).map (·.filedAs { type := type' }) := by
  rw [ofDer, ofDer, decode_filedAs type type']
  cases decode type der <;> rfl

end Certificate

/-- Neither the roles of two certificates nor where their records came from enter a verdict. -/
def SignatureVerifier.IgnoresFiling (verifier : SignatureVerifier) : Prop :=
  ∀ child parent f, verifier.certificate (child.filedAs f) parent =
      verifier.certificate child parent ∧
    verifier.certificate child (parent.filedAs f) = verifier.certificate child parent

theorem SignatureVerifier.standard_ignoresFiling : standard.IgnoresFiling :=
  fun _ _ _ => ⟨rfl, rfl⟩

namespace IssuerCandidates

variable {verifier : SignatureVerifier} {child : Certificate} {f : Filing}

theorem select_filedAs (hverifier : verifier.IgnoresFiling) {candidates : List Certificate} :
    select verifier (child.filedAs f) candidates = select verifier child candidates := by
  have hverdict : verdict verifier (child.filedAs f) = verdict verifier child := by
    funext candidate
    rw [verdict, verdict, (hverifier child candidate f).1]
  rw [select, select, hverdict]
  rfl

end IssuerCandidates

/-- The chain of the same certificate under another filing. -/
def TrustChain.filedAs (chain : TrustChain) (f : Filing) : TrustChain :=
  { chain with endEntity := chain.endEntity.filedAs f }

namespace ChainBuilder

variable {b : ChainBuilder} {c : Certificate} {f : Filing} {anchor : Option Certificate}
  {maxDepth left : Nat} {path : List String} {current : Certificate}

theorem isSelfSigned_filedAs (hverifier : b.verifier.IgnoresFiling) :
    b.isSelfSigned (current.filedAs f) = b.isSelfSigned current := by
  rw [isSelfSigned, isSelfSigned, Certificate.isSelfIssued_filedAs,
    (hverifier current (current.filedAs f) f).1, (hverifier current current f).2]

theorem atEnd_filedAs (hverifier : b.verifier.IgnoresFiling) :
    b.atEnd c anchor (current.filedAs f) = b.atEnd c anchor current := by
  simp only [atEnd, isSelfSigned_filedAs hverifier]
  rfl

theorem next_filedAs (hverifier : b.verifier.IgnoresFiling) :
    b.next c anchor path (current.filedAs f) = b.next c anchor path current := by
  simp only [next, IssuerCandidates.select_filedAs hverifier]
  rfl

/-- The certificate that a walk began with is only named in its failures. -/
theorem walk_of_filedAs :
    b.walk (c.filedAs f) anchor maxDepth left path current =
      b.walk c anchor maxDepth left path current := by
  induction left generalizing path current with
  | zero => rfl
  | succ left ih =>
      have hatEnd : b.atEnd (c.filedAs f) anchor current = b.atEnd c anchor current := rfl
      have hnext : b.next (c.filedAs f) anchor path current = b.next c anchor path current := rfl
      simp only [walk, hatEnd, hnext, ih]

/-- The next issuer is one that is held, so only the first step can meet the other record. -/
theorem walk_filedAs (hverifier : b.verifier.IgnoresFiling) :
    b.walk c anchor maxDepth left path (current.filedAs f) =
      b.walk c anchor maxDepth left path current := by
  cases left with
  | zero => simp only [walk, atEnd_filedAs hverifier]
  | succ left => simp only [walk, atEnd_filedAs hverifier, next_filedAs hverifier]

theorem build_filedAs (hverifier : b.verifier.IgnoresFiling) :
    b.build (c.filedAs f) anchor maxDepth = (b.build c anchor maxDepth).map (·.filedAs f) := by
  rw [build, build, walk_of_filedAs, walk_filedAs hverifier, Certificate.filedAs_fingerprint]
  cases b.walk c anchor maxDepth maxDepth [c.fingerprint] c <;> rfl

end ChainBuilder

namespace CertificateValidator

variable {v : CertificateValidator} {c : Certificate} {f : Filing} {anchor : Option Certificate}
  {now : Timestamp} {checkRevocation : Bool} {chain : TrustChain}

theorem chainOrFinding_filedAs (hverifier : v.verifier.IgnoresFiling) :
    v.chainOrFinding (c.filedAs f) anchor =
      (v.chainOrFinding c anchor).map fun found => (found.1.map (·.filedAs f), found.2) := by
  unfold chainOrFinding
  rw [ChainBuilder.build_filedAs hverifier]
  rcases v.chainBuilder.build c anchor v.policy.maxChainDepth with (finding | e) | chain <;> rfl

theorem signatureFinding_filedAs (hverifier : v.verifier.IgnoresFiling) {parent : Certificate} :
    v.signatureFinding (c.filedAs f) parent = v.signatureFinding c parent := by
  rw [signatureFinding, signatureFinding, (hverifier c parent f).1]
  rfl

theorem linkFindings_of_filedAs {direct : Option Certificate}
    {links : List (Certificate × Certificate)} :
    v.linkFindings (c.filedAs f) direct links = v.linkFindings c direct links := by
  induction links with
  | nil => rfl
  | cons link rest ih =>
      have hlink : v.linkFinding (c.filedAs f) direct link.1 link.2 =
          v.linkFinding c direct link.1 link.2 := rfl
      simp only [linkFindings, hlink, ih]

/-- Of the links of a chain the first alone has the end entity in it. -/
theorem linkFindings_filedAs (hverifier : v.verifier.IgnoresFiling) {direct : Option Certificate} :
    v.linkFindings c direct (chain.filedAs f).links = v.linkFindings c direct chain.links := by
  obtain ⟨endEntity, issuers⟩ := chain
  cases issuers with
  | nil => rfl
  | cons issuer rest =>
      have hlink : v.linkFinding c direct (endEntity.filedAs f) issuer =
          v.linkFinding c direct endEntity issuer := by
        rw [linkFinding, linkFinding, signatureFinding_filedAs hverifier]
        rfl
      simp only [TrustChain.filedAs, TrustChain.links, TrustChain.certificates, List.zip_cons_cons,
        linkFindings, hlink]

theorem signatureFindings_filedAs (hverifier : v.verifier.IgnoresFiling)
    {chain : Option TrustChain} :
    v.signatureFindings (c.filedAs f) anchor (chain.map (·.filedAs f)) =
      v.signatureFindings c anchor chain := by
  have hdirect : directAnchor (c.filedAs f) anchor = directAnchor c anchor := rfl
  have hfirst : v.signatureFinding (c.filedAs f) = v.signatureFinding c :=
    funext fun _ => signatureFinding_filedAs hverifier
  rw [signatureFindings, signatureFindings, hdirect, hfirst]
  cases chain with
  | none => rfl
  | some chain =>
      simp only [Option.map_some, Option.elim_some, linkFindings_of_filedAs,
        linkFindings_filedAs hverifier]

theorem issuerFindings_filedAs : issuerFindings (chain.filedAs f) = issuerFindings chain := by
  obtain ⟨endEntity, issuers⟩ := chain
  cases issuers with
  | nil => rfl
  | cons issuer rest =>
      simp only [TrustChain.filedAs, issuerFindings, TrustChain.links, TrustChain.certificates,
        List.zip_cons_cons, List.filter_cons]
      split <;> rfl

theorem checkIfAsked_filedAs {chain : Option TrustChain} :
    v.checkIfAsked now (c.filedAs f) (chain.map (·.filedAs f)) checkRevocation =
      v.checkIfAsked now c chain checkRevocation := by
  rw [checkIfAsked, checkIfAsked, Option.isSome_map]
  rfl

/-- A report on a certificate against the report on it under another filing. -/
structure SameButOwnFindings (c : Certificate) (f : Filing) (now : Timestamp)
    (report filed : ValidationReport) : Prop where
  chain : filed.chain = report.chain.map (·.filedAs f)
  revocation : filed.revocation = report.revocation
  findings : ∃ others, report.findings = c.ownFindings now ++ others ∧
    filed.findings = (c.filedAs f).ownFindings now ++ others

theorem validate_filedAs (hverifier : v.verifier.IgnoresFiling) :
    Alike (SameButOwnFindings c f now) (v.validate now c anchor checkRevocation)
      (v.validate now (c.filedAs f) anchor checkRevocation) := by
  rw [validate, validate, chainOrFinding_filedAs hverifier]
  refine Alike.bind (.of_map _) ?_
  rintro ⟨chain, chainFindings⟩ _ rfl
  refine Alike.bind (.of_eq (signatureFindings_filedAs hverifier).symm) ?_
  rintro signatures _ ⟨rfl, _⟩
  refine Alike.bind (.of_eq checkIfAsked_filedAs.symm) ?_
  rintro revocation _ ⟨rfl, _⟩
  have hissuers : (chain.map (·.filedAs f)).elim [] issuerFindings =
      chain.elim [] issuerFindings := by
    cases chain with
    | none => rfl
    | some chain => exact issuerFindings_filedAs
  refine .done ⟨rfl, rfl, chainFindings ++ signatures ++ chain.elim [] issuerFindings ++
    revocation.elim [] (revocationFindings c), ?_, ?_⟩
  · simp only [List.append_assoc]
  · simp only [hissuers, List.append_assoc]
    rfl

end CertificateValidator

end Mrtd
