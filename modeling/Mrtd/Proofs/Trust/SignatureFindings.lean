import Mrtd.Proofs.Trust.Ranking
import Mrtd.Trust.Validation

/-!
The findings on signatures. A validation checks the certificate against the anchor that bears the
name of its issuer, then the links of the chain but for the one to this anchor. What it files is one
finding for each of these pairs that does not verify, in their order.
-/

namespace Mrtd

open IssuerCandidates

namespace CertificateValidator

variable {v : CertificateValidator} {c child parent : Certificate}
  {anchor direct : Option Certificate} {chain : Option TrustChain}
  {links pairs rest : List (Certificate × Certificate)} {findings : List Finding} {f : Finding}

/-- The finding on a signature that does not verify. -/
def unverified (child parent : Certificate) : Finding :=
  .about child .signatureInvalid ("signature does not verify under '" ++ parent.subject ++ "'")

/-- The findings on the signatures of some pairs of child and parent. -/
def rejections (v : CertificateValidator) (pairs : List (Certificate × Certificate)) :
    List Finding :=
  (pairs.filter fun (child, parent) => !verdict v.verifier child parent).map fun (child, parent) =>
    unverified child parent

/-- The links that are checked: all but the one to the direct anchor. -/
def checkedLinks (c : Certificate) (direct : Option Certificate)
    (links : List (Certificate × Certificate)) : List (Certificate × Certificate) :=
  links.filter fun (child, parent) =>
    !(child.fingerprint == c.fingerprint && direct.any (·.fingerprint == parent.fingerprint))

/-- The pairs that are checked: the certificate with the direct anchor, then the links. -/
def checkedPairs (c : Certificate) (direct : Option Certificate) (chain : Option TrustChain) :
    List (Certificate × Certificate) :=
  direct.toList.map (c, ·) ++ checkedLinks c direct (chain.elim [] TrustChain.links)

theorem mem_checkedPairs_iff {pair : Certificate × Certificate} :
    pair ∈ checkedPairs c direct chain ↔
      (pair.2 ∈ direct ∧ pair.1 = c) ∨
        pair ∈ chain.elim [] TrustChain.links ∧
          ¬(pair.1.fingerprint = c.fingerprint ∧
            ∃ a ∈ direct, a.fingerprint = pair.2.fingerprint) := by
  obtain ⟨child, parent⟩ := pair
  rw [checkedPairs, List.mem_append]
  refine or_congr ?_ ?_
  · rw [List.mem_map]
    constructor
    · rintro ⟨a, ha, hpair⟩
      obtain ⟨rfl, rfl⟩ := Prod.mk.inj hpair
      exact ⟨Option.mem_toList.1 ha, rfl⟩
    · rintro ⟨ha, rfl⟩
      exact ⟨parent, Option.mem_toList.2 ha, rfl⟩
  · rw [checkedLinks, List.mem_filter, Bool.not_eq_true', ← Bool.not_eq_true, Bool.and_eq_true,
      beq_iff_eq, Option.any_eq_true]
    simp only [beq_iff_eq, Option.mem_def]

theorem rejections_append :
    v.rejections (pairs ++ rest) = v.rejections pairs ++ v.rejections rest := by
  simp only [rejections, List.filter_append, List.map_append]

theorem mem_rejections_iff :
    f ∈ v.rejections pairs ↔
      ∃ pair ∈ pairs, verdict v.verifier pair.1 pair.2 = false ∧ unverified pair.1 pair.2 = f := by
  simp only [rejections, List.mem_map, List.mem_filter, Bool.not_eq_true', and_assoc]

theorem signatureFinding_eq_rejections (h : v.signatureFinding child parent = .ok findings) :
    findings = v.rejections [(child, parent)] := by
  obtain ⟨verifies, hanswer, hfindings⟩ := bind_eq_ok_iff.1 h
  have hverdict : verdict v.verifier child parent = verifies := by simp only [verdict, hanswer]
  cases verifies with
  | true =>
      obtain rfl := Except.ok.inj hfindings
      simp [rejections, hverdict]
  | false =>
      obtain rfl := Except.ok.inj hfindings
      simp [rejections, hverdict, unverified]

theorem linkFinding_eq_rejections (h : v.linkFinding c direct child parent = .ok findings) :
    findings = v.rejections (checkedLinks c direct [(child, parent)]) := by
  unfold linkFinding at h
  split at h
  · rename_i hpassed
    obtain rfl := Except.ok.inj h
    rw [checkedLinks, List.filter_cons_of_neg (by simp [hpassed])]
    rfl
  · rename_i hchecked
    rw [checkedLinks, List.filter_cons_of_pos (by simp [hchecked])]
    exact signatureFinding_eq_rejections h

theorem linkFindings_eq_rejections (h : v.linkFindings c direct links = .ok findings) :
    findings = v.rejections (checkedLinks c direct links) := by
  induction links generalizing findings with
  | nil =>
      obtain rfl := Except.ok.inj h
      rfl
  | cons link rest ih =>
      obtain ⟨here, hhere, hrest⟩ := bind_eq_ok_iff.1 h
      obtain ⟨above, habove, hfindings⟩ := bind_eq_ok_iff.1 hrest
      obtain rfl := Except.ok.inj hfindings
      rw [linkFinding_eq_rejections hhere, ih habove, ← rejections_append, checkedLinks,
        checkedLinks, ← List.filter_append]
      rfl

theorem signatureFindings_eq_rejections
    (h : v.signatureFindings c anchor chain = .ok findings) :
    findings = v.rejections (checkedPairs c (directAnchor c anchor) chain) := by
  obtain ⟨first, hfirst, hrest⟩ := bind_eq_ok_iff.1 h
  obtain ⟨above, habove, hfindings⟩ := bind_eq_ok_iff.1 hrest
  obtain rfl := Except.ok.inj hfindings
  rw [checkedPairs, rejections_append]
  congr 1
  · cases hdirect : directAnchor c anchor with
    | none =>
        rw [hdirect] at hfirst
        obtain rfl := Except.ok.inj hfirst
        rfl
    | some a =>
        rw [hdirect] at hfirst
        exact signatureFinding_eq_rejections hfirst
  · cases chain with
    | none =>
        obtain rfl := Except.ok.inj habove
        rfl
    | some chain => exact linkFindings_eq_rejections habove

end CertificateValidator

end Mrtd
