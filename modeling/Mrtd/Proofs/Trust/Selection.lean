import Mrtd.Proofs.Sorting
import Mrtd.Proofs.Trust.Walk
import Mrtd.Proofs.Trust.Ranking

/-!
Which issuer is selected. A candidate is as good as another by four keys, each of which counts only
among equals in those before it; the ranking of candidates is this relation, and it is a total
preorder whatever the child. So candidates have a best one, which is selected, and among those that
rank equal with it the first. This is the front of the candidates in ascending order.
-/

namespace Mrtd

namespace IssuerCandidates

section Best

variable {α : Type} {rank : α → α → Ordering} [Std.TransCmp rank] {as before after : List α} {a : α}

theorem best?_of_split (hbefore : ∀ b ∈ before, rank a b = .lt)
    (hafter : ∀ b ∈ after, (rank a b).isLE = true) :
    best? rank (before ++ a :: after) = some a := by
  induction before with
  | nil =>
      rw [List.nil_append, best?]
      split
      · rfl
      · rename_i b hbest
        have hle : rank b a ≠ .lt := isLE_iff_ne_lt.1 (hafter b (mem_of_best? hbest))
        simp [hle]
  | cons first rest ih =>
      obtain ⟨hfirst, hrest⟩ := List.forall_mem_cons.1 hbefore
      rw [List.cons_append, best?, ih hrest]
      simp [hfirst]

/-- The best of a list is the first element of the least rank. -/
theorem best?_eq_some_iff :
    best? rank as = some a ↔ ∃ before after, as = before ++ a :: after ∧
      (∀ b ∈ before, rank a b = .lt) ∧ ∀ b ∈ after, (rank a b).isLE = true := by
  constructor
  · intro h
    induction as generalizing a with
    | nil => cases h
    | cons first rest ih =>
        simp only [best?] at h
        split at h
        · rename_i hnone
          obtain rfl := best?_eq_none_iff.1 hnone
          obtain rfl := Option.some.inj h
          exact ⟨[], [], rfl, by simp, by simp⟩
        · rename_i best hbest
          by_cases hlt : rank best first = .lt
          · obtain rfl : best = a := by simpa [hlt] using h
            obtain ⟨before, after, rfl, hbefore, hafter⟩ := ih hbest
            exact ⟨first :: before, after, rfl, List.forall_mem_cons.2 ⟨hlt, hbefore⟩, hafter⟩
          · obtain rfl : first = a := by simpa [hlt] using h
            have hfirst : (rank first best).isLE = true := isLE_iff_ne_lt.2 hlt
            refine ⟨[], rest, rfl, by simp, fun b hb => ?_⟩
            exact Std.TransCmp.isLE_trans hfirst (isLE_of_best? hbest b hb)
  · rintro ⟨before, after, rfl, hbefore, hafter⟩
    exact best?_of_split hbefore hafter

/-- The best of a list is at the front of the sorted list. -/
theorem head?_sortBy (as : List α) :
    (Sorting.sortBy (fun a b => rank a b == .lt) as).head? = best? rank as := by
  induction as using List.reverseRecOn with
  | nil => rfl
  | append_singleton as a ih =>
      rw [Sorting.sortBy_append_singleton]
      cases hsorted : Sorting.sortBy (fun a b => rank a b == .lt) as with
      | nil =>
          rw [hsorted] at ih
          obtain rfl := best?_eq_none_iff.1 ih.symm
          rfl
      | cons b rest =>
          rw [hsorted] at ih
          obtain ⟨before, after, rfl, hbefore, hafter⟩ := best?_eq_some_iff.1 ih.symm
          rw [Sorting.insertBy]
          by_cases hlt : rank a b = .lt
          · -- The new element comes before the best so far, and so before everything.
            have hall : ∀ c ∈ before ++ b :: after, rank a c = .lt := fun c hc =>
              Std.TransCmp.lt_of_lt_of_isLE hlt (isLE_of_best? ih.symm c hc)
            rw [if_pos (beq_iff_eq.2 hlt), best?_of_split hall (by simp)]
            rfl
          · have hle : (rank b a).isLE = true := isLE_iff_ne_lt.2 hlt
            have hafter' : ∀ c ∈ after ++ [a], (rank b c).isLE = true := by
              intro c hc
              rcases List.mem_append.1 hc with hc | hc
              · exact hafter c hc
              · rwa [List.mem_singleton.1 hc]
            rw [if_neg (mt beq_iff_eq.1 hlt), List.append_assoc, List.cons_append,
              best?_of_split hbefore hafter']
            rfl

end Best

variable {verifier : SignatureVerifier} {child c x : Certificate} {candidates : List Certificate}

/-- The signature of the child verifies under the key of a candidate. -/
def Verifies (verifier : SignatureVerifier) (child candidate : Certificate) : Prop :=
  verifier.certificate child candidate = .ok true

/-- One candidate is as good as another. Each key counts among equals in the keys before it. -/
structure IsAsGood (verifier : SignatureVerifier) (child c x : Certificate) : Prop where
  verifies : Verifies verifier child x → Verifies verifier child c
  covers : (Verifies verifier child x ↔ Verifies verifier child c) →
    x.isValidAt child.notBefore = true → c.isValidAt child.notBefore = true
  latest : (Verifies verifier child x ↔ Verifies verifier child c) →
    x.isValidAt child.notBefore = c.isValidAt child.notBefore → x.notBefore ≤ c.notBefore
  least : (Verifies verifier child x ↔ Verifies verifier child c) →
    x.isValidAt child.notBefore = c.isValidAt child.notBefore → x.notBefore = c.notBefore →
      c.fingerprint ≤ x.fingerprint

/-- The place of a candidate in the ranking. -/
def ranked (verifier : SignatureVerifier) (child c : Certificate) : Bool × Certificate :=
  (verdict verifier child c, c)

theorem isLE_compare_bool_iff {p q : Bool} : (compare p q).isLE = true ↔ (p = true → q = true) := by
  cases p <;> cases q <;> decide

theorem isLE_compare_string_iff {s t : String} : (compare s t).isLE = true ↔ s ≤ t :=
  isLE_compareOfLessAndEq String.le_antisymm String.not_le fun s t => String.le_total s t

theorem isLE_then_iff {o p : Ordering} :
    (o.then p).isLE = true ↔ o.isLE = true ∧ (o = .eq → p.isLE = true) := by
  cases o <;> simp [Ordering.then]

/-- What is not ranked behind another candidate is as good. -/
theorem isLE_rankIssuers_iff :
    (rankIssuers child (ranked verifier child c) (ranked verifier child x)).isLE = true ↔
      IsAsGood verifier child c x := by
  have hverdicts : verdict verifier child x = verdict verifier child c ↔
      (Verifies verifier child x ↔ Verifies verifier child c) := by
    rw [Verifies, Verifies, ← verdict_eq_true_iff, ← verdict_eq_true_iff, Bool.eq_iff_iff]
  simp only [ranked, rankIssuers, isLE_then_iff, isLE_compare_bool_iff, Std.isLE_compare,
    isLE_compare_string_iff, Std.LawfulEqOrd.compare_eq_iff_eq, verdict_eq_true_iff, hverdicts]
  constructor
  · rintro ⟨hverifies, hkeys⟩
    exact ⟨hverifies, fun hsame => (hkeys hsame).1, fun hsame hcovers =>
      ((hkeys hsame).2 hcovers).1, fun hsame hcovers => ((hkeys hsame).2 hcovers).2⟩
  · rintro ⟨hverifies, hcovers, hlatest, hleast⟩
    exact ⟨hverifies, fun hsame => ⟨hcovers hsame, fun hwindow =>
      ⟨hlatest hsame hwindow, hleast hsame hwindow⟩⟩⟩

/-- What is ranked before another candidate is better. -/
theorem rankIssuers_eq_lt_iff :
    rankIssuers child (ranked verifier child c) (ranked verifier child x) = .lt ↔
      ¬IsAsGood verifier child x c := by
  rw [← isLE_rankIssuers_iff, isLE_iff_ne_lt, not_not]

/-- The first of the best candidates is selected. -/
theorem select_eq_some_iff_isAsGood :
    select verifier child candidates = some c ↔ ∃ before after,
      candidates = before ++ c :: after ∧ (∀ x ∈ before, ¬IsAsGood verifier child x c) ∧
        ∀ x ∈ candidates, IsAsGood verifier child c x := by
  rw [select, Option.map_eq_some_iff]
  constructor
  · rintro ⟨⟨_, _⟩, hbest, rfl⟩
    have hall := isLE_of_best? hbest
    obtain ⟨before, after, hsplit, hbefore, _⟩ := best?_eq_some_iff.1 hbest
    obtain ⟨before, rest, rfl, rfl, hrest⟩ := List.map_eq_append_iff.1 hsplit
    obtain ⟨c, after, rfl, hpair, rfl⟩ := List.map_eq_cons_iff.1 hrest
    obtain ⟨rfl, rfl⟩ := Prod.mk.inj hpair
    refine ⟨before, after, rfl, fun x hx => ?_, fun x hx => ?_⟩
    · exact rankIssuers_eq_lt_iff.1 (hbefore _ (List.mem_map_of_mem hx))
    · exact isLE_rankIssuers_iff.1 (hall _ (List.mem_map_of_mem hx))
  · rintro ⟨before, after, rfl, hbefore, hall⟩
    refine ⟨ranked verifier child c, ?_, rfl⟩
    rw [List.map_append, List.map_cons]
    refine best?_of_split (fun b hb => ?_) fun b hb => ?_
    · obtain ⟨x, hx, rfl⟩ := List.mem_map.1 hb
      exact rankIssuers_eq_lt_iff.2 (hbefore x hx)
    · obtain ⟨x, hx, rfl⟩ := List.mem_map.1 hb
      exact isLE_rankIssuers_iff.2 (hall x (List.mem_append_right before (List.mem_cons_of_mem c hx)))

/-- Whatever is compared, the outcome is turned round with the arguments, and each of the outcomes
is handed on. -/
structure IsTotalPreorder {α : Type} (rank : α → α → Ordering) : Prop where
  swap : ∀ a b, rank b a = (rank a b).swap
  trans : ∀ a b c outcome, rank a b = outcome → rank b c = outcome → rank a c = outcome
  eq_left : ∀ a b c, rank a b = .eq → rank a c = rank b c
  eq_right : ∀ a b c, rank b c = .eq → rank a b = rank a c

theorem isTotalPreorder {α : Type} (rank : α → α → Ordering) [Std.TransCmp rank] :
    IsTotalPreorder rank where
  swap _ _ := Std.OrientedCmp.eq_swap
  trans a b c outcome hab hbc := by
    cases outcome with
    | lt => exact Std.TransCmp.lt_trans hab hbc
    | eq => exact Std.TransCmp.eq_trans hab hbc
    | gt => exact Std.TransCmp.gt_trans hab hbc
  eq_left _ _ _ := Std.TransCmp.congr_left
  eq_right _ _ _ := Std.TransCmp.congr_right

/-- An issuer is selected unless there is no candidate: the first of those that are as good as every
other, which is the front of the candidates in the order of their ranks. The ranking is a total
preorder, and equal only where all the keys are. -/
theorem select_best (verifier : SignatureVerifier) (child : Certificate)
    (candidates : List Certificate) :
    (select verifier child candidates = none ↔ candidates = []) ∧
      (∀ c, select verifier child candidates = some c ↔ ∃ before after,
        candidates = before ++ c :: after ∧ (∀ x ∈ before, ¬IsAsGood verifier child x c) ∧
          ∀ x ∈ candidates, IsAsGood verifier child c x) ∧
      select verifier child candidates =
        ((Sorting.sortBy (fun a b => rankIssuers child a b == .lt)
          (candidates.map fun c => (verdict verifier child c, c))).head?).map Prod.snd ∧
      IsTotalPreorder (rankIssuers child) ∧
      ∀ a b, rankIssuers child a b = .eq ↔
        a.1 = b.1 ∧ a.2.isValidAt child.notBefore = b.2.isValidAt child.notBefore ∧
          a.2.notBefore = b.2.notBefore ∧ a.2.fingerprint = b.2.fingerprint := by
  refine ⟨select_eq_none_iff, fun c => select_eq_some_iff_isAsGood, ?_,
    isTotalPreorder (rankIssuers child), fun a b => rankIssuers_eq_eq_iff⟩
  rw [head?_sortBy, select]

end IssuerCandidates

end Mrtd
