import Mrtd.Text.Case

/-!
Characters by class. What is no ASCII letter is the capital or small form of itself alone, so keywords
that agree up to letter case are spelled in few ways, and the lower-case form of a text has a comma
only where the text has one.
-/

namespace Mrtd.Text

variable {c x : Char} {s t : List Char}

/-- What holds of each of some characters in a row holds of every character among them. -/
theorem forall_between {P : Char → Prop} {first count : Nat}
    (hall : ∀ k < count, P (Char.ofNat (first + k))) (hlow : first ≤ c.toNat)
    (hhigh : c.toNat < first + count) : P c := by
  have hoffset : first + (c.toNat - first) = c.toNat := by omega
  rw [← Char.ofNat_toNat c, ← hoffset]
  exact hall _ (by omega)

theorem forall_isDigit {P : Char → Prop} (hall : ∀ k < 10, P (Char.ofNat (48 + k)))
    (h : c.isDigit = true) : P c := by
  obtain ⟨hlow, hhigh⟩ := Bool.and_eq_true_iff.1 h
  have hnine : c.toNat ≤ 57 := UInt32.le_iff_toNat_le.1 (of_decide_eq_true hhigh)
  exact forall_between hall (UInt32.le_iff_toNat_le.1 (of_decide_eq_true hlow)) (by omega)

theorem forall_isUpper {P : Char → Prop} (hall : ∀ k < 26, P (Char.ofNat (65 + k)))
    (h : c.isUpper = true) : P c := by
  obtain ⟨hlow, hhigh⟩ := of_decide_eq_true h
  have hlast : c.toNat ≤ 90 := UInt32.le_iff_toNat_le.1 hhigh
  exact forall_between hall (UInt32.le_iff_toNat_le.1 hlow) (by omega)

theorem forall_isLower {P : Char → Prop} (hall : ∀ k < 26, P (Char.ofNat (97 + k)))
    (h : c.isLower = true) : P c := by
  obtain ⟨hlow, hhigh⟩ := Bool.and_eq_true_iff.1 h
  have hlast : c.toNat ≤ 122 := UInt32.le_iff_toNat_le.1 (of_decide_eq_true hhigh)
  exact forall_between hall (UInt32.le_iff_toNat_le.1 (of_decide_eq_true hlow)) (by omega)

theorem toLower_of_not_isUpper (h : ¬c.isUpper = true) : c.toLower = c :=
  dif_neg fun hupper => h (decide_eq_true hupper)

theorem toUpper_of_not_isLower (h : ¬c.isLower = true) : c.toUpper = c :=
  dif_neg fun ⟨hlow, hhigh⟩ =>
    h (Bool.and_eq_true_iff.2 ⟨decide_eq_true hlow, decide_eq_true hhigh⟩)

/-- Only a small letter is the small form of another character. -/
theorem eq_of_toLower_eq (hx : x.isLower = false) (h : c.toLower = x) : c = x := by
  by_cases hupper : c.isUpper = true
  · have hlower : c.toLower.isLower = true :=
      forall_isUpper (P := fun c => c.toLower.isLower = true) (by decide) hupper
    rw [h, hx] at hlower
    cases hlower
  · rwa [toLower_of_not_isUpper hupper] at h

/-- Only a capital is the capital form of another character. -/
theorem eq_of_toUpper_eq (hx : x.isUpper = false) (h : c.toUpper = x) : c = x := by
  by_cases hlower : c.isLower = true
  · have hupper : c.toUpper.isUpper = true :=
      forall_isLower (P := fun c => c.toUpper.isUpper = true) (by decide) hlower
    rw [h, hx] at hupper
    cases hupper
  · rwa [toUpper_of_not_isLower hlower] at h

/-- A letter is the small form of itself and of its capital. -/
theorem eq_or_eq_toUpper (h : c.toLower = x) : c = x ∨ c = x.toUpper := by
  by_cases hupper : c.isUpper = true
  · right
    rw [← h]
    exact forall_isUpper (P := fun c => c = c.toLower.toUpper) (by decide) hupper
  · left
    rw [← h, toLower_of_not_isUpper hupper]

theorem toLower_toUpper (c : Char) : c.toUpper.toLower = c.toLower := by
  by_cases hlower : c.isLower = true
  · exact forall_isLower (P := fun c => c.toUpper.toLower = c.toLower) (by decide) hlower
  · rw [toUpper_of_not_isLower hlower]

theorem toUpper_toLower (c : Char) : c.toLower.toUpper = c.toUpper := by
  by_cases hupper : c.isUpper = true
  · exact forall_isUpper (P := fun c => c.toLower.toUpper = c.toUpper) (by decide) hupper
  · rw [toLower_of_not_isUpper hupper]

/-- Agreement in capitals is agreement in small letters. -/
theorem map_toUpper_eq_iff :
    s.map Char.toUpper = t.map Char.toUpper ↔ s.map Char.toLower = t.map Char.toLower := by
  constructor
  · intro h
    simpa only [List.map_map, Function.comp_def, toLower_toUpper] using
      congrArg (List.map Char.toLower) h
  · intro h
    simpa only [List.map_map, Function.comp_def, toUpper_toLower] using
      congrArg (List.map Char.toUpper) h

theorem asciiLower_asciiUpper (s : String) : asciiLower (asciiUpper s) = asciiLower s := by
  simp only [asciiLower, asciiUpper, String.toList_ofList, List.map_map, Function.comp_def,
    toLower_toUpper]

theorem eqIgnoreAsciiCase_asciiUpper (a b : String) :
    eqIgnoreAsciiCase a (asciiUpper b) = eqIgnoreAsciiCase a b := by
  rw [eqIgnoreAsciiCase, eqIgnoreAsciiCase, asciiLower_asciiUpper]

/-- What a letter becomes lies among the letters or behind them. -/
theorem lowerRanges_above : ∀ range ∈ lowerRanges, 0x40 < (range.1 : Int) + range.2.2.2 := by
  decide +kernel

theorem ofNat_ne_comma {n : Nat} (h : 0x40 < n) : Char.ofNat n ≠ ',' := by
  intro heq
  by_cases hvalid : n.isValidChar
  · have hcode : (Char.ofNat n).toNat = n := by
      rw [Char.ofNat, dif_pos hvalid]
      rfl
    rw [heq] at hcode
    change 0x2C = n at hcode
    omega
  · rw [Char.ofNat, dif_neg hvalid] at heq
    exact absurd heq (by decide)

theorem comma_not_mem_lowerChar (h : c ≠ ',') : ',' ∉ lowerChar c := by
  unfold lowerChar
  dsimp only
  split
  · simpa using fun heq : ',' = c.toLower => h (eq_of_toLower_eq (by decide) heq.symm)
  split
  · decide
  split
  · rename_i low high step distance hrange
    have habove := lowerRanges_above _ (List.mem_of_find?_eq_some hrange)
    have hlow := List.find?_some hrange
    have hchar : 0x40 < Int.toNat (c.toNat + distance) := by
      simp only [Bool.and_eq_true, decide_eq_true_eq] at hlow
      dsimp only at habove
      omega
    simpa using (ofNat_ne_comma hchar).symm
  · simpa using h.symm

/-- The lower-case form has no comma unless the text has one. -/
theorem comma_not_mem_lowerChars (h : ',' ∉ s) : ',' ∉ lowerChars s := by
  suffices hafter : ∀ before, ',' ∉ lowerAfter before s from hafter []
  induction s with
  | nil => exact fun before hmem => by cases hmem
  | cons c rest ih =>
      intro before hmem
      obtain ⟨hfirst, hrest⟩ := List.ne_and_not_mem_of_not_mem_cons h
      rw [lowerAfter] at hmem
      rcases List.mem_append.1 hmem with hmem | hmem
      · split at hmem
        · split at hmem <;> revert hmem <;> decide
        · exact comma_not_mem_lowerChar hfirst.symm hmem
      · exact ih hrest _ hmem

end Mrtd.Text
