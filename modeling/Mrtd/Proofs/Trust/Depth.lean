import Mrtd.Proofs.Trust.Report

/-!
The limit on the depth of a walk. A walk consults its limit only to give up, so one that ends for
another reason ends in the same way under every greater limit. And every step reaches the anchor or
a certificate of the store that was not met before, so over a store a walk ends by itself, whatever
cycles the names and the signatures form: what bounds its steps is not the limit, but the number of
certificates that are held.
-/

namespace Mrtd

namespace CertificateStore

variable {s : CertificateStore} {path : List String} {c : Certificate}

/-- How many certificates of a store a path has not met. -/
def unmet (s : CertificateStore) (path : List String) : Nat :=
  (s.certificates.filter fun c => !path.contains c.fingerprint).length

theorem unmet_le_size : s.unmet path ≤ s.size :=
  List.length_filter_le ..

theorem unmet_cons_lt (hheld : c ∈ s.certificates) (hfresh : c.fingerprint ∉ path) :
    s.unmet (c.fingerprint :: path) < s.unmet path := by
  have hfilter : (s.certificates.filter fun d => !(c.fingerprint :: path).contains d.fingerprint) =
      (s.certificates.filter fun d => !path.contains d.fingerprint).filter
        fun d => d.fingerprint != c.fingerprint := by
    rw [List.filter_filter]
    refine List.filter_congr fun d _ => ?_
    rw [List.contains_cons, Bool.not_or, bne]
  have hmem : c ∈ s.certificates.filter fun d => !path.contains d.fingerprint := by
    simp [hheld, hfresh]
  rw [unmet, hfilter, unmet, List.length_filter_lt_length_iff_exists]
  exact ⟨c, hmem, by simp⟩

end CertificateStore

namespace ChainBuilder

/-- A result that says that there is no root within the limit. -/
def IsTooLong {α : Type} (result : Except ChainFailure α) : Prop :=
  ∃ finding, result = .error (.invalid finding) ∧ finding.kind = .chainTooLong

/-- A result together with the number of issuers that were selected on the way to it. -/
structure Counted (α : Type) where
  result : Except ChainFailure α
  selections : Nat

/-- The walk, counting its selections. -/
def countedWalk (b : ChainBuilder) (c : Certificate) (anchor : Option Certificate)
    (maxDepth : Nat) : Nat → List String → Certificate → Counted (List Certificate)
  | left, path, current =>
      match b.atEnd c anchor current, left with
      | .error failure, _ => ⟨.error failure, 0⟩
      | .ok true, _ => ⟨.ok [], 0⟩
      | .ok false, 0 => ⟨.error (.invalid (tooLong c maxDepth)), 0⟩
      | .ok false, left + 1 =>
          match b.next c anchor path current with
          | .error failure => ⟨.error failure, 1⟩
          | .ok issuer =>
              let above := b.countedWalk c anchor maxDepth left (issuer.fingerprint :: path) issuer
              ⟨above.result.map (issuer :: ·), above.selections + 1⟩

/-- The chain of a certificate, with the number of selections that building it takes. -/
def countedBuild (b : ChainBuilder) (c : Certificate) (anchor : Option Certificate)
    (maxDepth : Nat) : Counted TrustChain :=
  let walked := b.countedWalk c anchor maxDepth maxDepth [c.fingerprint] c
  ⟨walked.result.map fun issuers => ⟨c, issuers⟩, walked.selections⟩

section Limit

variable {α β : Type} {result : Except ChainFailure α} {b : ChainBuilder} {c : Certificate}
  {anchor : Option Certificate} {maxDepth left : Nat} {path : List String}
  {current issuer : Certificate}

theorem isTooLong_map_iff {f : α → β} : IsTooLong (result.map f) ↔ IsTooLong result := by
  simp only [IsTooLong, map_eq_error_iff]

theorem not_isTooLong_ok {a : α} : ¬IsTooLong (.ok a : Except ChainFailure α) := by
  rintro ⟨_, herror, _⟩
  cases herror

theorem isTooLong_tooLong :
    IsTooLong (.error (.invalid (tooLong c maxDepth)) : Except ChainFailure α) :=
  ⟨_, rfl, rfl⟩

/-- The check whether a walk ends does not look at the limit. -/
theorem not_isTooLong_atEnd : ¬IsTooLong (b.atEnd c anchor current) := by
  rintro ⟨finding, hend, hkind⟩
  obtain ⟨a, rfl⟩ := atEnd_eq_invalid hend
  cases hkind

theorem not_isTooLong_next : ¬IsTooLong (b.next c anchor path current) := by
  rintro ⟨finding, hnext, hkind⟩
  obtain rfl := next_eq_invalid hnext
  cases hkind

theorem IsTooLong.of_error {failure : ChainFailure}
    (h : IsTooLong (.error failure : Except ChainFailure α)) :
    IsTooLong (.error failure : Except ChainFailure β) := by
  obtain ⟨finding, herror, hkind⟩ := h
  obtain rfl := Except.error.inj herror
  exact ⟨finding, rfl, hkind⟩

/-- With more links left, a walk that does not reach its limit is the same. -/
theorem walk_of_le {maxDepth' left' : Nat} (hle : left ≤ left')
    (h : ¬IsTooLong (b.walk c anchor maxDepth left path current)) :
    b.walk c anchor maxDepth' left' path current = b.walk c anchor maxDepth left path current := by
  -- The limit itself is only written into the one finding that is ruled out.
  induction left generalizing left' path current with
  | zero =>
      rcases hend : b.atEnd c anchor current with failure | _ | _
      · rw [walk_of_atEnd_error hend, walk_of_atEnd_error hend]
      · rw [walk_zero_of_atEnd_false hend] at h
        exact absurd isTooLong_tooLong h
      · rw [walk_of_atEnd_true hend, walk_of_atEnd_true hend]
  | succ left ih =>
      obtain ⟨left', rfl⟩ := Nat.exists_eq_add_one.2 (Nat.lt_of_lt_of_le left.succ_pos hle)
      rcases hend : b.atEnd c anchor current with failure | _ | _
      · rw [walk_of_atEnd_error hend, walk_of_atEnd_error hend]
      · rcases hnext : b.next c anchor path current with failure | issuer
        · rw [walk_succ_of_next_error hend hnext, walk_succ_of_next_error hend hnext]
        · rw [walk_succ_of_next_ok hend hnext, isTooLong_map_iff] at h
          rw [walk_succ_of_next_ok hend hnext, walk_succ_of_next_ok hend hnext,
            ih (Nat.le_of_succ_le_succ hle) h]
      · rw [walk_of_atEnd_true hend, walk_of_atEnd_true hend]

theorem result_countedWalk :
    (b.countedWalk c anchor maxDepth left path current).result =
      b.walk c anchor maxDepth left path current := by
  fun_induction countedWalk b c anchor maxDepth left path current with
  | case1 left path current failure hend => exact (walk_of_atEnd_error hend).symm
  | case2 left path current hend => exact (walk_of_atEnd_true hend).symm
  | case3 path current hend => exact (walk_zero_of_atEnd_false hend).symm
  | case4 path current left hend failure hnext => exact (walk_succ_of_next_error hend hnext).symm
  | case5 path current left hend issuer hnext above ih =>
      rw [walk_succ_of_next_ok hend hnext, ← ih]

theorem selections_of_atEnd_true (h : b.atEnd c anchor current = .ok true) :
    (b.countedWalk c anchor maxDepth left path current).selections = 0 := by
  unfold countedWalk
  simp only [h]

theorem result_countedBuild :
    (b.countedBuild c anchor maxDepth).result = b.build c anchor maxDepth := by
  rw [countedBuild, result_countedWalk, build]

end Limit

section Store

variable {s : CertificateStore} {verifier : SignatureVerifier} {policy : CrossCertificationPolicy}
  {c : Certificate} {anchor : Option Certificate} {maxDepth left : Nat} {path : List String}
  {current issuer : Certificate}

/-- Every step over a store reaches the anchor, where the walk ends, or a certificate of the store
that was not met before. -/
theorem atEnd_or_unmet_lt
    (h : (ChainBuilder.mk s.repository verifier policy).next c anchor path current = .ok issuer) :
    (ChainBuilder.mk s.repository verifier policy).atEnd c anchor issuer = .ok true ∨
      s.unmet (issuer.fingerprint :: path) < s.unmet path := by
  have hchooses := next_eq_ok_iff.1 h
  rcases (hchooses.of_store rfl).2 with ⟨hheld, _⟩ | hanchor
  · exact .inr (CertificateStore.unmet_cons_lt hheld hchooses.not_mem_path)
  · obtain rfl := Option.mem_def.1 hanchor
    exact .inl (atEnd_eq_true_iff.2 rfl)

/-- A walk that may take more links than there are certificates to meet does not reach its limit. -/
theorem not_isTooLong_walk (h : s.unmet path < left) :
    ¬IsTooLong ((ChainBuilder.mk s.repository verifier policy).walk c anchor maxDepth left path
      current) := by
  induction left generalizing path current with
  | zero => cases h
  | succ left ih =>
      rcases hend : (ChainBuilder.mk s.repository verifier policy).atEnd c anchor current with
        failure | _ | _
      · rw [walk_of_atEnd_error hend]
        exact fun htooLong => not_isTooLong_atEnd (hend ▸ htooLong.of_error)
      · rcases hnext : (ChainBuilder.mk s.repository verifier policy).next c anchor path
          current with failure | issuer
        · rw [walk_succ_of_next_error hend hnext]
          exact fun htooLong => not_isTooLong_next (hnext ▸ htooLong.of_error)
        · rw [walk_succ_of_next_ok hend hnext, isTooLong_map_iff]
          rcases atEnd_or_unmet_lt hnext with hanchor | hlt
          · rw [walk_of_atEnd_true hanchor]
            exact not_isTooLong_ok
          · exact ih (Nat.lt_of_lt_of_le hlt (Nat.le_of_lt_succ h))
      · rw [walk_of_atEnd_true hend]
        exact not_isTooLong_ok

/-- A walk selects at most one issuer more than there are certificates to meet. -/
theorem selections_countedWalk_le :
    ((ChainBuilder.mk s.repository verifier policy).countedWalk c anchor maxDepth left path
      current).selections ≤ s.unmet path + 1 := by
  fun_induction countedWalk (ChainBuilder.mk s.repository verifier policy) c anchor maxDepth left
    path current with
  | case1 => exact Nat.zero_le _
  | case2 => exact Nat.zero_le _
  | case3 => exact Nat.zero_le _
  | case4 => exact Nat.le_add_left ..
  | case5 path current left hend issuer hnext above ih =>
      change above.selections + 1 ≤ s.unmet path + 1
      -- The anchor need not be held: the selection of it is the one that no certificate pays for.
      rcases atEnd_or_unmet_lt hnext with hanchor | hlt
      · have hnone : above.selections = 0 := selections_of_atEnd_true hanchor
        omega
      · have habove : above.selections ≤ s.unmet (issuer.fingerprint :: path) + 1 := ih
        omega

end Store

/-- The limit does nothing but cut off: a result that is not at the limit stands under every greater
limit, and a limit above the number of certificates is not reached. Under every limit at most one
issuer more is selected than there are certificates. -/
theorem build_within_depth (s : CertificateStore) (verifier : SignatureVerifier)
    (policy : CrossCertificationPolicy) (c : Certificate) (anchor : Option Certificate) :
    (∀ depth deeper, depth ≤ deeper →
        ¬IsTooLong ((ChainBuilder.mk s.repository verifier policy).build c anchor depth) →
          (ChainBuilder.mk s.repository verifier policy).build c anchor deeper =
            (ChainBuilder.mk s.repository verifier policy).build c anchor depth) ∧
      (∀ depth, s.size < depth →
        ¬IsTooLong ((ChainBuilder.mk s.repository verifier policy).build c anchor depth)) ∧
      ∀ depth,
        ((ChainBuilder.mk s.repository verifier policy).countedBuild c anchor depth).result =
            (ChainBuilder.mk s.repository verifier policy).build c anchor depth ∧
          ((ChainBuilder.mk s.repository verifier policy).countedBuild c anchor depth).selections ≤
            s.size + 1 := by
  have hmet : s.unmet [c.fingerprint] ≤ s.size := CertificateStore.unmet_le_size
  refine ⟨?_, ?_, ?_⟩
  · intro depth deeper hle htooLong
    rw [build, isTooLong_map_iff] at htooLong
    rw [build, build, walk_of_le hle htooLong]
  · intro depth hsize
    rw [build, isTooLong_map_iff]
    exact not_isTooLong_walk (Nat.lt_of_le_of_lt hmet hsize)
  · intro depth
    refine ⟨result_countedBuild, ?_⟩
    calc ((ChainBuilder.mk s.repository verifier policy).countedBuild c anchor depth).selections
        ≤ s.unmet [c.fingerprint] + 1 := selections_countedWalk_le
      _ ≤ s.size + 1 := Nat.succ_le_succ hmet

end ChainBuilder

namespace Specimen

def east : Certificate := certificate .csca "CN=East" "CN=West"

def west : Certificate := certificate .csca "CN=West" "CN=East"

/-- Two authorities that certify each other. -/
def ring : CertificateStore := .ofList [east, west]

/-- Accepts every signature. -/
def credulousVerifier : SignatureVerifier where
  certificate _ _ := .ok true
  content _ _ _ _ := .ok true

/-- One link is too few to notice that the ring has no root, two are enough. -/
theorem ring_build_within_depth :
    (ChainBuilder.mk ring.repository credulousVerifier {}).build east none 1 =
        .error (.invalid (ChainBuilder.tooLong east 1)) ∧
      (ChainBuilder.mk ring.repository credulousVerifier {}).build east none 2 =
        .error (.invalid (ChainBuilder.broken east west)) ∧
      (ChainBuilder.mk ring.repository credulousVerifier {}).build east none 7 =
        (ChainBuilder.mk ring.repository credulousVerifier {}).build east none 2 ∧
      ¬ChainBuilder.IsTooLong
        ((ChainBuilder.mk ring.repository credulousVerifier {}).build east none 3) ∧
      ((ChainBuilder.mk ring.repository credulousVerifier {}).countedBuild east none
        7).selections ≤ 3 := by
  obtain ⟨hdeeper, hbeyond, hcounted⟩ :=
    ChainBuilder.build_within_depth ring credulousVerifier {} east none
  have hbroken : (ChainBuilder.mk ring.repository credulousVerifier {}).build east none 2 =
      .error (.invalid (ChainBuilder.broken east west)) := by with_unfolding_all rfl
  have hshort : ¬ChainBuilder.IsTooLong
      ((ChainBuilder.mk ring.repository credulousVerifier {}).build east none 2) := by
    rintro ⟨finding, hfinding, hkind⟩
    rw [hbroken] at hfinding
    obtain rfl := ChainFailure.invalid.inj (Except.error.inj hfinding)
    cases hkind
  refine ⟨by with_unfolding_all rfl, hbroken, hdeeper 2 7 (by decide) hshort, ?_, ?_⟩
  · exact hbeyond 3 (by decide)
  · exact (hcounted 7).2

end Specimen

end Mrtd
