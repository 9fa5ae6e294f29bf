import Mrtd.SerialNumber

/-!
The normal form of a serial number. Of octets, those that are zero are dropped from the front; what
is left is written in full, two digits an octet. A normal form is its own normal form.
-/

namespace Mrtd.SerialNumber

variable {b : Bytes} {ds : List Char}

theorem upperDigit_is_digit : ∀ n < 16,
    (Hex.value? (Hex.upperDigit n)).isSome = true ∧ (Hex.upperDigit n).toUpper = Hex.upperDigit n := by
  decide

theorem upperDigit_eq_zero_iff : ∀ n < 16, Hex.upperDigit n = '0' ↔ n = 0 := by
  decide

/-- Capital digits are left as they are. -/
theorem digits_chars (b : Bytes) :
    digits (Hex.chars Hex.upperDigit b) = Hex.chars Hex.upperDigit b := by
  induction b with
  | nil => rfl
  | cons octet rest ih =>
      have hlt := octet.toNat_lt
      have hhigh := upperDigit_is_digit (octet.toNat / 16) (by omega)
      have hlow := upperDigit_is_digit (octet.toNat % 16) (by omega)
      rw [digits] at ih
      simp [Hex.chars, digits, hhigh, hlow, ih]

theorem ofBytes_eq (b : Bytes) :
    ofBytes b = String.ofList (canonicalDigits (Hex.chars Hex.upperDigit b)) := by
  rw [ofBytes, normalize, Bytes.toUpperHex, String.toList_ofList, digits_chars]

/-- An octet zero in front does not count. -/
theorem ofBytes_zero_cons (b : Bytes) : ofBytes (0 :: b) = ofBytes b := by
  rw [ofBytes_eq, ofBytes_eq]
  rfl

theorem length_chars_even (b : Bytes) : (Hex.chars Hex.upperDigit b).length % 2 = 0 := by
  induction b with
  | nil => rfl
  | cons octet rest ih =>
      simp only [Hex.chars, List.length_cons]
      omega

/-- Octets that do not begin with zero are written as they are. -/
theorem ofBytes_cons_of_ne {first : UInt8} (h : first ≠ 0) (rest : Bytes) :
    ofBytes (first :: rest) = Bytes.toUpperHex (first :: rest) := by
  have hlt := first.toNat_lt
  have hvalue : first.toNat ≠ 0 := by
    intro hzero
    exact h (UInt8.toNat_inj.1 hzero)
  have hhigh := upperDigit_eq_zero_iff (first.toNat / 16) (by omega)
  have hlow := upperDigit_eq_zero_iff (first.toNat % 16) (by omega)
  have heven := length_chars_even rest
  rw [ofBytes_eq, Bytes.toUpperHex, canonicalDigits, Hex.chars]
  by_cases hsmall : first.toNat / 16 = 0
  · -- The high digit is zero and is put back to complete the octet.
    have hzero : Hex.upperDigit (first.toNat / 16) = '0' := hhigh.2 hsmall
    have hnonzero : Hex.upperDigit (first.toNat % 16) ≠ '0' := by
      rw [ne_eq, hlow]
      omega
    simp [hzero, hnonzero, heven]
  · have hnonzero : Hex.upperDigit (first.toNat / 16) ≠ '0' := by
      rw [ne_eq, hhigh]
      exact hsmall
    have hodd : ¬ ((Hex.chars Hex.upperDigit rest).length + 1) % 2 = 0 := by omega
    simp [hnonzero, hodd]

/-- Digits are in ASCII, so what holds of those in ASCII holds of all. -/
theorem forall_digit {P : Char → Prop}
    (hascii : ∀ n < 128, (Hex.value? (Char.ofNat n)).isSome = true → P (Char.ofNat n)) {c : Char}
    (h : (Hex.value? c).isSome = true) : P c := by
  have hcode : c.toNat < 128 := by
    apply Nat.lt_of_not_le
    intro hlarge
    have hnone : Hex.value? c = none := by
      simp only [Hex.value?]
      rw [if_neg (by omega), if_neg (by omega), if_neg (by omega)]
    simp [hnone] at h
  have hcharacter := hascii c.toNat hcode
  rw [Char.ofNat_toNat] at hcharacter
  exact hcharacter h

/-- The capital of a digit is a digit in capitals. -/
theorem toUpper_of_digit {c : Char} (h : (Hex.value? c).isSome = true) :
    (Hex.value? c.toUpper).isSome = true ∧ c.toUpper.toUpper = c.toUpper :=
  forall_digit (P := fun c => (Hex.value? c.toUpper).isSome = true ∧ c.toUpper.toUpper = c.toUpper)
    (by decide) h

/-- All of some characters are digits in capitals. -/
def AreDigits (ds : List Char) : Prop :=
  ∀ c ∈ ds, (Hex.value? c).isSome = true ∧ c.toUpper = c

theorem areDigits_digits (s : List Char) : AreDigits (digits s) := by
  intro c hc
  obtain ⟨d, hd, rfl⟩ := List.mem_map.1 hc
  exact toUpper_of_digit (List.mem_filter.1 hd).2

theorem digits_eq_self (h : AreDigits ds) : digits ds = ds := by
  have hfilter : ds.filter (fun c => (Hex.value? c).isSome) = ds :=
    List.filter_eq_self.2 fun c hc => (h c hc).1
  have hcapitals : ds.map Char.toUpper = ds.map id := List.map_congr_left fun c hc => (h c hc).2
  rw [digits, hfilter, hcapitals, List.map_id]

theorem areDigits_canonicalDigits (h : AreDigits ds) : AreDigits (canonicalDigits ds) := by
  have hzero : (Hex.value? '0').isSome = true ∧ '0'.toUpper = '0' := by decide
  have hrest : AreDigits (ds.dropWhile (· == '0')) :=
    fun c hc => h c ((List.dropWhile_sublist _).subset hc)
  unfold canonicalDigits
  split
  · simpa [AreDigits] using hzero
  · rename_i d rest hdrop
    rw [hdrop] at hrest
    split
    · exact List.forall_mem_cons.2 ⟨hzero, hrest⟩
    · exact hrest

theorem canonicalDigits_canonicalDigits (ds : List Char) :
    canonicalDigits (canonicalDigits ds) = canonicalDigits ds := by
  cases hdrop : ds.dropWhile (· == '0') with
  | nil => simp [canonicalDigits, hdrop]
  | cons d rest =>
      have hd : (d == '0') = false := by
        have hhead := List.head?_dropWhile_not (· == '0') ds
        simpa [hdrop] using hhead
      by_cases heven : rest.length % 2 = 0
      · simp [canonicalDigits, hdrop, heven, hd]
      · simp [canonicalDigits, hdrop, heven, hd]

/-- A normal form is its own normal form. -/
theorem normalize_normalize (s : String) : normalize (normalize s) = normalize s := by
  have hdigits := areDigits_canonicalDigits (areDigits_digits s.toList)
  rw [normalize, normalize, String.toList_ofList, digits_eq_self hdigits,
    canonicalDigits_canonicalDigits]

/-- Octets are put into normal form. -/
@[simp] theorem normalize_ofBytes (b : Bytes) : normalize (ofBytes b) = ofBytes b :=
  normalize_normalize _

end Mrtd.SerialNumber
