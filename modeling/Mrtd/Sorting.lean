/-!
Insertion sort that keeps elements of equal rank in their order.
-/

namespace Mrtd.Sorting

variable {α : Type}

/-- Puts an element in front of the first one that it must precede. -/
def insertBy (precedes : α → α → Bool) (a : α) : List α → List α
  | [] => [a]
  | b :: rest => if precedes a b then a :: b :: rest else b :: insertBy precedes a rest

/-- The elements in ascending order. -/
def sortBy (precedes : α → α → Bool) (as : List α) : List α :=
  as.foldl (fun sorted a => insertBy precedes a sorted) []

theorem insertBy_perm (precedes : α → α → Bool) (a : α) (as : List α) :
    (insertBy precedes a as).Perm (a :: as) := by
  induction as with
  | nil => exact .refl _
  | cons b rest ih =>
      simp only [insertBy]
      split
      · exact .refl _
      · exact (ih.cons b).trans (.swap ..)

theorem sortBy_perm (precedes : α → α → Bool) (as : List α) : (sortBy precedes as).Perm as := by
  suffices h : ∀ sorted, (as.foldl (fun sorted a => insertBy precedes a sorted) sorted).Perm
      (sorted ++ as) from h []
  induction as with
  | nil => intro sorted; simp
  | cons a rest ih =>
      intro sorted
      refine (ih _).trans (((insertBy_perm precedes a sorted).append_right rest).trans ?_)
      exact List.perm_middle.symm

end Mrtd.Sorting
