import Mathlib.Data.List.DropRight
import Mathlib.Data.List.Induction
import Mrtd.Text.Blank

/-!
White space and separators in text. At a separator the two sides of a text are split apart. Trimming
takes off the white space at the ends and nothing else, and the words of a text do not depend on how
much white space stands around them.
-/

namespace Mrtd.Text

variable {p : Char → Bool} {c x : Char} {a b s w w' : List Char}

theorem splitOn_eq_splitOnP (p : Char → Bool) (s : List Char) : splitOn p s = s.splitOnP p := by
  induction s with
  | nil => rfl
  | cons c rest ih =>
      rw [splitOn, List.splitOnP_cons_eq_if_modifyHead, ih]
      split
      · rfl
      · cases hpieces : rest.splitOnP p with
        | nil => exact absurd hpieces (List.splitOnP_ne_nil p rest)
        | cons piece pieces => rfl

theorem exists_splitOn_cons (p : Char → Bool) (s : List Char) :
    ∃ piece pieces, splitOn p s = piece :: pieces := by
  rw [splitOn_eq_splitOnP]
  exact List.exists_cons_of_ne_nil (List.splitOnP_ne_nil p s)

/-- The two sides of a separator are split apart. -/
theorem splitOn_append_cons (h : p c = true) :
    splitOn p (a ++ c :: b) = splitOn p a ++ splitOn p b := by
  simp only [splitOn_eq_splitOnP]
  exact List.splitOnP_append_cons a b h

theorem splitOn_cons_of_neg (h : p x = false) {piece : List Char} {pieces : List (List Char)}
    (hs : splitOn p s = piece :: pieces) : splitOn p (x :: s) = (x :: piece) :: pieces := by
  rw [splitOn, hs, h]
  rfl

/-- A character that is no separator is added to the last piece. -/
theorem exists_splitOn_append_singleton (h : p x = false) (s : List Char) :
    ∃ pieces piece, splitOn p s = pieces ++ [piece] ∧
      splitOn p (s ++ [x]) = pieces ++ [piece ++ [x]] := by
  induction s with
  | nil => exact ⟨[], [], rfl, by simp [splitOn, h]⟩
  | cons c rest ih =>
      obtain ⟨pieces, piece, hrest, hlonger⟩ := ih
      cases hc : p c with
      | true =>
          refine ⟨[] :: pieces, piece, ?_, ?_⟩
          · rw [splitOn, if_pos hc, hrest, List.cons_append]
          · rw [List.cons_append, splitOn, if_pos hc, hlonger, List.cons_append]
      | false =>
          cases pieces with
          | nil =>
              exact ⟨[], c :: piece, splitOn_cons_of_neg hc hrest, splitOn_cons_of_neg hc hlonger⟩
          | cons first more =>
              exact ⟨(c :: first) :: more, piece, splitOn_cons_of_neg hc hrest,
                splitOn_cons_of_neg hc hlonger⟩

theorem splitOn_eq_singleton (h : ∀ c ∈ s, p c = false) : splitOn p s = [s] := by
  rw [splitOn_eq_splitOnP]
  exact List.splitOnP_eq_singleton h

theorem mem_of_mem_splitOn {piece : List Char} (hpiece : piece ∈ splitOn p s) (hc : c ∈ piece) :
    c ∈ s := by
  induction s generalizing piece with
  | nil =>
      obtain rfl := List.mem_singleton.1 hpiece
      exact hc
  | cons x rest ih =>
      obtain ⟨first, pieces, hrest⟩ := exists_splitOn_cons p rest
      cases hx : p x with
      | true =>
          rw [splitOn, if_pos hx] at hpiece
          rcases List.mem_cons.1 hpiece with rfl | hlater
          · cases hc
          · exact List.mem_cons_of_mem x (ih hlater hc)
      | false =>
          rw [splitOn_cons_of_neg hx hrest] at hpiece
          rcases List.mem_cons.1 hpiece with rfl | hlater
          · rcases List.mem_cons.1 hc with rfl | hfirst
            · exact List.mem_cons_self
            · exact List.mem_cons_of_mem x (ih (hrest ▸ List.mem_cons_self) hfirst)
          · exact List.mem_cons_of_mem x (ih (hrest ▸ List.mem_cons_of_mem _ hlater) hc)

theorem trimChars_cons (h : isBlank x = true) : trimChars (x :: s) = trimChars s := by
  rw [trimChars, trimLeft, List.dropWhile_cons_of_pos h]
  rfl

theorem trimRight_append_singleton (h : isBlank x = true) : trimRight (s ++ [x]) = trimRight s := by
  rw [trimRight, List.reverse_append, List.reverse_singleton, List.singleton_append,
    List.dropWhile_cons_of_pos h]
  rfl

theorem trimChars_append_singleton (h : isBlank x = true) :
    trimChars (s ++ [x]) = trimChars s := by
  rw [trimChars, trimChars, trimLeft, trimLeft, List.dropWhile_append]
  cases hrest : s.dropWhile isBlank with
  | nil => simp [h]
  | cons first more => exact trimRight_append_singleton h

/-- Trimming stops at a character that is not blank. -/
theorem trimRight_append_cons (h : isBlank c = false) :
    trimRight (a ++ c :: b) = a ++ c :: trimRight b := by
  have hreverse : (a ++ c :: b).reverse = b.reverse ++ c :: a.reverse := by simp
  have hstop : (c :: a.reverse).dropWhile isBlank = c :: a.reverse :=
    List.dropWhile_cons_of_neg (by simp [h])
  rw [trimRight, trimRight, hreverse, List.dropWhile_append]
  cases hrest : b.reverse.dropWhile isBlank with
  | nil => simp [hstop]
  | cons first more => simp

/-- Trimming starts before a character that is not blank. -/
theorem trimLeft_append_cons (h : isBlank c = false) :
    trimLeft (a ++ c :: b) = trimLeft a ++ c :: b := by
  have hstop : (c :: b).dropWhile isBlank = c :: b := List.dropWhile_cons_of_neg (by simp [h])
  rw [trimLeft, trimLeft, List.dropWhile_append]
  cases hrest : a.dropWhile isBlank with
  | nil => simp [hstop]
  | cons first more => simp

theorem trimChars_trimLeft (s : List Char) : trimChars (trimLeft s) = trimChars s := by
  rw [trimChars, trimChars, trimLeft, trimLeft, List.dropWhile_idempotent]

/-- Nothing but white space. -/
def AreBlank (w : List Char) : Prop :=
  ∀ c ∈ w, isBlank c = true

instance (w : List Char) : Decidable (AreBlank w) :=
  decidable_of_iff (w.all isBlank = true) List.all_eq_true

/-- White space at the ends is trimmed. -/
theorem trimChars_between (hw : AreBlank w) (hw' : AreBlank w') :
    trimChars (w ++ s ++ w') = trimChars s := by
  induction w with
  | cons c rest ih =>
      obtain ⟨hc, hrest⟩ := List.forall_mem_cons.1 hw
      rw [List.cons_append, List.cons_append, trimChars_cons hc, ih hrest]
  | nil =>
      induction w' using List.reverseRecOn with
      | nil => rw [List.nil_append, List.append_nil]
      | append_singleton rest c ih =>
          obtain ⟨hrest, hc⟩ := List.forall_mem_append.1 hw'
          rw [← List.append_assoc, trimChars_append_singleton (hc c List.mem_cons_self), ih hrest]

/-- A text without white space at its ends is left as it is. -/
theorem trimChars_eq_self (hhead : s.head?.all (! isBlank ·) = true)
    (hlast : s.getLast?.all (! isBlank ·) = true) : trimChars s = s := by
  have hleft : trimLeft s = s := by
    cases s with
    | nil => rfl
    | cons first more =>
        have hfirst : isBlank first = false := by simpa using hhead
        exact List.dropWhile_cons_of_neg (by simp [hfirst])
  rw [trimChars, hleft]
  rcases List.eq_nil_or_concat s with rfl | ⟨init, last, rfl⟩
  · rfl
  · have hblank : isBlank last = false := by simpa using hlast
    rw [List.concat_eq_append, trimRight_append_cons hblank]
    rfl

/-- What is trimmed off the ends is white space. -/
theorem exists_trimChars (s : List Char) :
    ∃ w w', AreBlank w ∧ AreBlank w' ∧ s = w ++ trimChars s ++ w' := by
  have hleft : s.takeWhile isBlank ++ trimLeft s = s := List.takeWhile_append_dropWhile
  have hright : trimRight (trimLeft s) ++ ((trimLeft s).reverse.takeWhile isBlank).reverse =
      trimLeft s := by
    rw [trimRight, ← List.reverse_append, List.takeWhile_append_dropWhile, List.reverse_reverse]
  refine ⟨s.takeWhile isBlank, ((trimLeft s).reverse.takeWhile isBlank).reverse, ?_, ?_, ?_⟩
  · exact fun c hc => List.mem_takeWhile_imp hc
  · exact fun c hc => List.mem_takeWhile_imp (List.mem_reverse.1 hc)
  · rw [trimChars, List.append_assoc, hright, hleft]

/-- White space separates words. -/
theorem words_append_cons (h : isBlank x = true) : words (a ++ x :: b) = words a ++ words b := by
  rw [words, splitOn_append_cons h, List.filter_append]
  rfl

theorem words_append_singleton (h : isBlank x = true) : words (s ++ [x]) = words s := by
  rw [words_append_cons h]
  exact List.append_nil _

/-- A run of white space separates words as one blank does. -/
theorem words_append_blank (hw : AreBlank w) (hne : w ≠ []) :
    words (a ++ w ++ b) = words a ++ words b := by
  induction w generalizing a with
  | nil => exact absurd rfl hne
  | cons c rest ih =>
      obtain ⟨hc, hrest⟩ := List.forall_mem_cons.1 hw
      cases rest with
      | nil => rw [List.append_assoc, List.singleton_append, words_append_cons hc]
      | cons d more =>
          have hshift : a ++ c :: d :: more ++ b = a ++ [c] ++ d :: more ++ b := by simp
          rw [hshift, ih hrest (by simp), words_append_singleton hc]

/-- White space at the ends belongs to no word. -/
theorem words_between (hw : AreBlank w) (hw' : AreBlank w') : words (w ++ s ++ w') = words s := by
  have hfront : words (w ++ (s ++ w')) = words (s ++ w') := by
    cases w with
    | nil => rfl
    | cons c rest => exact words_append_blank (a := []) hw (by simp)
  have hback : words (s ++ w') = words s := by
    cases w' with
    | nil => rw [List.append_nil]
    | cons c rest =>
        have hsplit := words_append_blank (a := s) (b := []) hw' (by simp)
        rw [List.append_nil] at hsplit
        rw [hsplit]
        exact List.append_nil _
  rw [List.append_assoc, hfront, hback]

theorem words_trimRight (s : List Char) : words (trimRight s) = words s := by
  induction s using List.reverseRecOn with
  | nil => rfl
  | append_singleton s x ih =>
      cases hx : isBlank x with
      | true => rw [trimRight_append_singleton hx, ih, words_append_singleton hx]
      | false => rw [trimRight_append_cons hx]; rfl

theorem mem_of_mem_words {word : List Char} (hword : word ∈ words s) (hc : c ∈ word) : c ∈ s :=
  mem_of_mem_splitOn (List.mem_filter.1 hword).1 hc

theorem cutAt_append_cons (h : ∀ x ∈ a, p x = false) (hc : p c = true) :
    cutAt p (a ++ c :: b) = some (a, b) := by
  induction a with
  | nil => rw [List.nil_append, cutAt, if_pos hc]
  | cons x rest ih =>
      obtain ⟨hx, hrest⟩ := List.forall_mem_cons.1 h
      rw [List.cons_append, cutAt, ih hrest, hx]
      rfl

/-- A text is cut at the first character that satisfies the test. -/
theorem cutAt_eq_some_iff :
    cutAt p s = some (a, b) ↔ ∃ c, s = a ++ c :: b ∧ p c = true ∧ ∀ x ∈ a, p x = false := by
  constructor
  · induction s generalizing a with
    | nil => exact fun h => nomatch h
    | cons x rest ih =>
        intro h
        rw [cutAt] at h
        split at h
        · rename_i hx
          obtain ⟨rfl, rfl⟩ := Prod.mk.inj (Option.some.inj h)
          exact ⟨x, rfl, hx, by simp⟩
        · rename_i hx
          obtain ⟨⟨before, after⟩, hrest, hpair⟩ := Option.map_eq_some_iff.1 h
          obtain ⟨rfl, rfl⟩ := Prod.mk.inj hpair
          obtain ⟨c, rfl, hc, hbefore⟩ := ih hrest
          exact ⟨c, rfl, hc, List.forall_mem_cons.2 ⟨by simpa using hx, hbefore⟩⟩
  · rintro ⟨c, rfl, hc, hbefore⟩
    exact cutAt_append_cons hbefore hc

end Mrtd.Text
