import Mathlib.Data.List.Induction
import Mathlib.Order.Lattice
import Mrtd.Sorting

/-!
Insertion sort is a stable sort. Where ranks can be compared, the sorted list ascends, and elements
none of which precedes another stand in it in the order in which they were given.
-/

namespace Mrtd.Sorting

variable {α : Type} {precedes : α → α → Bool}

/-- What neither precedes the other has one rank, and ranks are ordered. -/
structure IsRanking (precedes : α → α → Bool) : Prop where
  asymm : ∀ {a b}, precedes a b = true → precedes b a = false
  trans : ∀ {a b c}, precedes b a = false → precedes c b = false → precedes c a = false

theorem IsRanking.irrefl (h : IsRanking precedes) (a : α) : precedes a a = false := by
  cases hself : precedes a a with
  | false => rfl
  | true => exact hself.symm.trans (h.asymm hself)

/-- Keys that are linearly ordered rank what has them. -/
theorem isRanking_key {β : Type} [LinearOrder β] (key : α → β) :
    IsRanking fun a b => decide (key a < key b) where
  asymm h := by
    rw [decide_eq_true_eq] at h
    exact decide_eq_false (lt_asymm h)
  trans hab hbc := by
    rw [decide_eq_false_iff_not, not_lt] at hab hbc ⊢
    exact le_trans hab hbc

/-- Nothing precedes what stands before it. -/
def Ascends (precedes : α → α → Bool) (as : List α) : Prop :=
  as.Pairwise fun a b => precedes b a = false

theorem sortBy_append_singleton (as : List α) (a : α) :
    sortBy precedes (as ++ [a]) = insertBy precedes a (sortBy precedes as) :=
  List.foldl_append ..

theorem ascends_insertBy (h : IsRanking precedes) (a : α) {as : List α}
    (has : Ascends precedes as) : Ascends precedes (insertBy precedes a as) := by
  induction as with
  | nil => exact List.pairwise_singleton _ a
  | cons b rest ih =>
      obtain ⟨hb, hrest⟩ := List.pairwise_cons.1 has
      rw [insertBy]
      split
      · rename_i hbefore
        have hab : precedes b a = false := h.asymm hbefore
        refine List.pairwise_cons.2 ⟨?_, has⟩
        intro c hc
        rcases List.mem_cons.1 hc with rfl | hc
        · exact hab
        · exact h.trans hab (hb c hc)
      · rename_i hafter
        refine List.pairwise_cons.2 ⟨?_, ih hrest⟩
        intro c hc
        rcases List.mem_cons.1 ((insertBy_perm precedes a rest).mem_iff.1 hc) with rfl | hc
        · exact Bool.eq_false_iff.2 hafter
        · exact hb c hc

theorem ascends_sortBy (h : IsRanking precedes) (as : List α) :
    Ascends precedes (sortBy precedes as) := by
  induction as using List.reverseRecOn with
  | nil => exact List.Pairwise.nil
  | append_singleton as a ih =>
      rw [sortBy_append_singleton]
      exact ascends_insertBy h a ih

/-- Among elements that it does not precede, an element is inserted at the end. -/
theorem filter_insertBy (h : IsRanking precedes) {q : α → Bool} {a : α} {as : List α}
    (has : Ascends precedes as) (hq : q a = true → ∀ b ∈ as, q b = true → precedes a b = false) :
    (insertBy precedes a as).filter q = as.filter q ++ [a].filter q := by
  induction as with
  | nil => rfl
  | cons b rest ih =>
      obtain ⟨hb, hrest⟩ := List.pairwise_cons.1 has
      rw [insertBy]
      split
      · rename_i hbefore
        cases hqa : q a with
        | false => simp [List.filter_cons, hqa]
        | true =>
            -- The element precedes everything from here on, so nothing of it satisfies the test.
            have hnone : (b :: rest).filter q = [] := by
              refine List.filter_eq_nil_iff.2 fun c hc hqc => ?_
              have hcb : precedes c b = false := by
                rcases List.mem_cons.1 hc with rfl | hc
                · exact h.irrefl c
                · exact hb c hc
              have hab : precedes a b = false := h.trans hcb (hq hqa c hc hqc)
              rw [hbefore] at hab
              cases hab
            rw [List.filter_cons_of_pos hqa, hnone, List.filter_cons_of_pos hqa]
            rfl
      · have hinserted : (insertBy precedes a rest).filter q = rest.filter q ++ [a].filter q :=
          ih hrest fun hqa c hc => hq hqa c (List.mem_cons_of_mem b hc)
        rw [List.filter_cons, List.filter_cons, hinserted]
        split <;> rfl

/-- Elements none of which precedes another keep their order. -/
theorem filter_sortBy (h : IsRanking precedes) {q : α → Bool} {as : List α}
    (hq : ∀ a ∈ as, ∀ b ∈ as, q a = true → q b = true → precedes a b = false) :
    (sortBy precedes as).filter q = as.filter q := by
  induction as using List.reverseRecOn with
  | nil => rfl
  | append_singleton as a ih =>
      have hsub : ∀ {b}, b ∈ as → b ∈ as ++ [a] := List.mem_append_left [a]
      have hrest : (sortBy precedes as).filter q = as.filter q :=
        ih fun b hb c hc => hq b (hsub hb) c (hsub hc)
      have hinserted := filter_insertBy h (a := a) (ascends_sortBy h as) fun hqa b hb hqb =>
        hq a (List.mem_append_right as (List.mem_singleton_self a)) b
          (hsub ((sortBy_perm precedes as).mem_iff.1 hb)) hqa hqb
      rw [sortBy_append_singleton, hinserted, hrest, List.filter_append]

/-- The last of the sorted elements that pass a test precedes none of those before it in the given
order, and those behind it precede it. -/
theorem split_of_sorted_last (h : IsRanking precedes) {q : α → Bool} {as front : List α} {a : α}
    (hsorted : (sortBy precedes as).filter q = front ++ [a]) :
    ∃ before after, as.filter q = before ++ a :: after ∧
      (∀ b ∈ before, precedes a b = false) ∧ ∀ b ∈ after, precedes b a = true := by
  have hascends : Ascends precedes (front ++ [a]) := hsorted ▸ (ascends_sortBy h as).filter q
  have hqa : q a = true :=
    (List.mem_filter.1 (hsorted ▸ List.mem_append_right front (List.mem_singleton_self a))).2
  have hmax : ∀ b ∈ as.filter q, precedes a b = false := by
    intro b hb
    have hb : b ∈ front ++ [a] :=
      hsorted ▸ ((sortBy_perm precedes as).filter q).mem_iff.2 hb
    rcases List.mem_append.1 hb with hb | hb
    · exact (List.pairwise_append.1 hascends).2.2 b hb a (List.mem_singleton_self a)
    · rw [List.mem_singleton.1 hb]
      exact h.irrefl a
  -- Sorting keeps the order of the elements that rank equal with the last one, so that it is also
  -- the last of them in the given order.
  let level : α → Bool := fun b => !precedes a b && !precedes b a
  have hlevel : ∀ {b}, level b = true ↔ precedes a b = false ∧ precedes b a = false := by
    simp [level]
  have hkept : (as.filter q).filter level = front.filter level ++ [a] := by
    have hstable : (sortBy precedes as).filter (fun b => level b && q b) =
        as.filter fun b => level b && q b := by
      refine filter_sortBy h fun b _ c _ hb hc => ?_
      have hb := hlevel.1 (Bool.and_eq_true_iff.1 hb).1
      have hc := hlevel.1 (Bool.and_eq_true_iff.1 hc).1
      exact h.trans hc.1 hb.2
    rw [List.filter_filter, ← hstable, ← List.filter_filter, hsorted, List.filter_append,
      List.filter_cons_of_pos (hlevel.2 ⟨h.irrefl a, h.irrefl a⟩), List.filter_nil]
  obtain ⟨start, rest, hsplit, _, hrest⟩ := List.filter_eq_append_iff.1 hkept
  obtain ⟨between, after, rfl, _, _, hafter⟩ := List.filter_eq_cons_iff.1 hrest
  have hwhole : as.filter q = (start ++ between) ++ a :: after := by rw [hsplit, List.append_assoc]
  refine ⟨start ++ between, after, hwhole, fun b hb => hmax b ?_, fun b hb => ?_⟩
  · exact hwhole ▸ List.mem_append_left _ hb
  · have hab : precedes a b = false :=
      hmax b (hwhole ▸ List.mem_append_right _ (List.mem_cons_of_mem a hb))
    by_contra hba
    exact List.filter_eq_nil_iff.1 hafter b hb (hlevel.2 ⟨hab, Bool.eq_false_iff.2 hba⟩)

end Mrtd.Sorting
