import Mrtd.Trust.Chain

/-!
The ranking of issuer candidates. It is an order that only candidates of one fingerprint share a
place in, so the one that is selected comes before all others, in whichever order they were found.
-/

namespace Mrtd

section Order

variable {child : Certificate} {a b : Bool × Certificate}

/-- The keys are compared one after the other, the fingerprints upwards and what comes before them
downwards. -/
instance : Std.TransCmp (rankIssuers child) :=
  inferInstanceAs <| Std.TransCmp <|
    compareLex (fun a b : Bool × Certificate => compareOn Prod.fst b a) <|
      compareLex (fun a b => compareOn (fun c => c.2.isValidAt child.notBefore) b a) <|
        compareLex (fun a b => compareOn (fun c => c.2.notBefore) b a)
          (compareOn fun c => c.2.fingerprint)

theorem rankIssuers_eq_eq_iff :
    rankIssuers child a b = .eq ↔
      a.1 = b.1 ∧ a.2.isValidAt child.notBefore = b.2.isValidAt child.notBefore ∧
        a.2.notBefore = b.2.notBefore ∧ a.2.fingerprint = b.2.fingerprint := by
  simp only [rankIssuers, Ordering.then_eq_eq, Std.LawfulEqOrd.compare_eq_iff_eq]
  constructor
  · rintro ⟨hverdict, hcovers, hstart, hprint⟩
    exact ⟨hverdict.symm, hcovers.symm, hstart.symm, hprint⟩
  · rintro ⟨hverdict, hcovers, hstart, hprint⟩
    exact ⟨hverdict.symm, hcovers.symm, hstart.symm, hprint⟩

end Order

namespace IssuerCandidates

theorem isLE_iff_ne_lt {α : Type} {rank : α → α → Ordering} [Std.OrientedCmp rank] {a b : α} :
    (rank a b).isLE = true ↔ rank b a ≠ .lt :=
  Std.OrientedCmp.isGE_iff_isLE.symm.trans Ordering.isGE_iff_ne_lt

/-- Nothing in a list comes before the best of it. -/
theorem isLE_of_best? {α : Type} {rank : α → α → Ordering} [Std.TransCmp rank] {as : List α} {a : α}
    (h : best? rank as = some a) : ∀ b ∈ as, (rank a b).isLE = true := by
  induction as generalizing a with
  | nil => cases h
  | cons first rest ih =>
      simp only [best?] at h
      split at h
      · rename_i hnone
        obtain rfl := best?_eq_none_iff.1 hnone
        obtain rfl := Option.some.inj h
        intro b hb
        obtain rfl := List.mem_singleton.1 hb
        exact Std.ReflCmp.isLE_rfl
      · rename_i best hbest
        -- The best of the rest must come before the first element; in a tie the first stays.
        by_cases hlt : rank best first = .lt
        · obtain rfl : best = a := by simpa [hlt] using h
          intro b hb
          rcases List.mem_cons.1 hb with rfl | hb
          · exact Ordering.isLE_of_eq_lt hlt
          · exact ih hbest b hb
        · obtain rfl : first = a := by simpa [hlt] using h
          have hfirst : (rank first best).isLE = true := isLE_iff_ne_lt.2 hlt
          intro b hb
          rcases List.mem_cons.1 hb with rfl | hb
          · exact Std.ReflCmp.isLE_rfl
          · exact Std.TransCmp.isLE_trans hfirst (ih hbest b hb)

variable {verifier : SignatureVerifier} {child x y : Certificate} {candidates : List Certificate}

/-- One candidate for the issuer of a child comes before another. -/
def Precedes (verifier : SignatureVerifier) (child x y : Certificate) : Prop :=
  rankIssuers child (verdict verifier child x, x) (verdict verifier child y, y) = .lt

theorem verdict_eq_true_iff :
    verdict verifier child x = true ↔ verifier.certificate child x = .ok true := by
  unfold verdict
  split <;> simp_all

/-- Before a candidate under which the child verifies, there are only others of this kind. -/
theorem Precedes.verifies (h : Precedes verifier child x y)
    (hverifies : verifier.certificate child y = .ok true) :
    verifier.certificate child x = .ok true := by
  rw [← verdict_eq_true_iff] at hverifies ⊢
  unfold Precedes rankIssuers at h
  cases hverdict : verdict verifier child x with
  | true => rfl
  | false =>
      rw [hverifies, hverdict] at h
      cases h

theorem select_eq_none_iff : select verifier child candidates = none ↔ candidates = [] := by
  rw [select, Option.map_eq_none_iff, best?_eq_none_iff, List.map_eq_nil_iff]

/-- No candidate comes before the one that is selected. -/
theorem not_precedes_of_select (h : select verifier child candidates = some x) :
    ∀ y ∈ candidates, ¬Precedes verifier child y x := by
  obtain ⟨⟨verdict, _⟩, hbest, rfl⟩ := Option.map_eq_some_iff.1 h
  obtain ⟨member, _, hpair⟩ := List.mem_map.1 (mem_of_best? hbest)
  obtain ⟨rfl, rfl⟩ := Prod.mk.inj hpair
  intro y hy
  have hle := isLE_of_best? hbest _ (List.mem_map_of_mem hy)
  exact isLE_iff_ne_lt.1 hle

/-- Of two certificates one comes before the other, unless their fingerprints are the same. -/
theorem fingerprint_eq_of_not_precedes (hxy : ¬Precedes verifier child x y)
    (hyx : ¬Precedes verifier child y x) : x.fingerprint = y.fingerprint := by
  have heq := Std.OrientedCmp.isLE_antisymm (isLE_iff_ne_lt.2 hyx) (isLE_iff_ne_lt.2 hxy)
  exact (rankIssuers_eq_eq_iff.1 heq).2.2.2

end IssuerCandidates

end Mrtd
