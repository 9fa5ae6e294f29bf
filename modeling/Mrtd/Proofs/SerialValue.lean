import Mathlib.Data.List.Induction
import Mathlib.Data.Nat.Digits.Defs
import Mrtd.Proofs.SerialNumber

/-!
Serial numbers as numbers. The hexadecimal digits of a text denote a number, and the normal form
consists of the digits of this number in base sixteen, completed to whole octets. So texts have one
normal form exactly if they denote one number; octets denote their number in base 256.
-/

namespace Mrtd

namespace SerialNumber

/-- The number that the hexadecimal digits among some characters denote. No digits denote zero. -/
def valueOf (s : List Char) : Nat :=
  Nat.ofDigits 16 (s.filterMap Hex.value?).reverse

/-- The number that a serial number in any spelling denotes. -/
def value (s : String) : Nat :=
  valueOf s.toList

/-- Whole octets in capital digits, of which the first is not zero. -/
structure IsOctets (s : List Char) : Prop where
  even : s.length % 2 = 0
  capital : ∀ c ∈ s, c ∈ "0123456789ABCDEF".toList
  first : ∃ high low rest, s = high :: low :: rest ∧ ¬ (high = '0' ∧ low = '0')

variable {c : Char} {ds : List Char}

theorem value?_toUpper (h : (Hex.value? c).isSome = true) :
    Hex.value? c.toUpper = Hex.value? c :=
  forall_digit (P := fun c => Hex.value? c.toUpper = Hex.value? c) (by decide) h

theorem value?_capital (h : (Hex.value? c).isSome = true) (hcapital : c.toUpper = c) :
    ∃ v < 16, Hex.value? c = some v ∧ Hex.upperDigit v = c :=
  forall_digit
    (P := fun c => c.toUpper = c → ∃ v < 16, Hex.value? c = some v ∧ Hex.upperDigit v = c)
    (by decide) h hcapital

theorem mem_capitals (h : (Hex.value? c).isSome = true) (hcapital : c.toUpper = c) :
    c ∈ "0123456789ABCDEF".toList :=
  forall_digit (P := fun c => c.toUpper = c → c ∈ "0123456789ABCDEF".toList) (by decide) h hcapital

/-- Putting digits into capitals and dropping other characters leaves the number as it is. -/
theorem valueOf_digits (s : List Char) : valueOf (digits s) = valueOf s := by
  have hvalues : (digits s).filterMap Hex.value? = s.filterMap Hex.value? := by
    induction s with
    | nil => rfl
    | cons c rest ih =>
        rw [digits] at ih
        cases hc : Hex.value? c with
        | none => simpa [digits, hc] using ih
        | some v =>
            have hupper : Hex.value? c.toUpper = some v := by rw [value?_toUpper (by simp [hc]), hc]
            simpa [digits, hc, hupper] using ih
  rw [valueOf, hvalues]
  rfl

theorem valueOf_zero_cons (s : List Char) : valueOf ('0' :: s) = valueOf s := by
  have hzero : Hex.value? '0' = some 0 := by decide
  rw [valueOf, List.filterMap_cons_some hzero, Nat.ofDigits_reverse_zero_cons]
  rfl

/-- Zeros in front do not count. -/
theorem valueOf_dropWhile (s : List Char) : valueOf (s.dropWhile (· == '0')) = valueOf s := by
  induction s with
  | nil => rfl
  | cons c rest ih =>
      by_cases hc : c = '0'
      · rw [hc, List.dropWhile_cons_of_pos (by decide), ih, valueOf_zero_cons]
      · rw [List.dropWhile_cons_of_neg (by simpa using hc)]

theorem valueOf_canonicalDigits (ds : List Char) : valueOf (canonicalDigits ds) = valueOf ds := by
  rw [← valueOf_dropWhile ds, canonicalDigits]
  cases ds.dropWhile (· == '0') with
  | nil => rfl
  | cons d rest =>
      dsimp only
      split
      · exact valueOf_zero_cons _
      · rfl

/-- The normal form denotes the same number. -/
theorem value_normalize (s : String) : value (normalize s) = value s := by
  rw [value, value, normalize, String.toList_ofList, valueOf_canonicalDigits, valueOf_digits]

theorem map_upperDigit_values (h : AreDigits ds) :
    (ds.filterMap Hex.value?).map Hex.upperDigit = ds := by
  induction ds with
  | nil => rfl
  | cons d rest ih =>
      obtain ⟨⟨hd, hcapital⟩, hrest⟩ := List.forall_mem_cons.1 h
      obtain ⟨v, _, hv, hdigit⟩ := value?_capital hd hcapital
      rw [List.filterMap_cons_some hv, List.map_cons, hdigit, ih hrest]

/-- Digits that do not begin with zero are the digits of the number that they denote. -/
theorem values_eq_digits (h : AreDigits ds) (hhead : ds.head? ≠ some '0') :
    ds.filterMap Hex.value? = (Nat.digits 16 (valueOf ds)).reverse := by
  have hsmall : ∀ v ∈ (ds.filterMap Hex.value?).reverse, v < 16 := by
    intro v hv
    obtain ⟨d, hd, hvalue⟩ := List.mem_filterMap.1 (List.mem_reverse.1 hv)
    obtain ⟨v', hlt, hvalue', _⟩ := value?_capital (h d hd).1 (h d hd).2
    rw [hvalue] at hvalue'
    exact Option.some.inj hvalue' ▸ hlt
  have hlast : ∀ hne : (ds.filterMap Hex.value?).reverse ≠ [],
      (ds.filterMap Hex.value?).reverse.getLast hne ≠ 0 := by
    cases ds with
    | nil => exact fun hne => absurd rfl hne
    | cons d rest =>
        obtain ⟨hd, hcapital⟩ := h d List.mem_cons_self
        obtain ⟨v, _, hv, hdigit⟩ := value?_capital hd hcapital
        intro hne hzero
        simp only [List.filterMap_cons_some hv, List.reverse_cons, List.getLast_concat]
          at hzero
        rw [hzero] at hdigit
        exact hhead (congrArg some hdigit.symm)
  rw [valueOf, Nat.digits_ofDigits 16 (by decide) _ hsmall hlast, List.reverse_reverse]

/-- What is left without zeros in front depends on the number alone. -/
theorem dropWhile_eq_digits (h : AreDigits ds) : ds.dropWhile (· == '0') =
    (Nat.digits 16 (valueOf ds)).reverse.map Hex.upperDigit := by
  have hrest : AreDigits (ds.dropWhile (· == '0')) :=
    fun c hc => h c ((List.dropWhile_sublist _).subset hc)
  have hhead : (ds.dropWhile (· == '0')).head? ≠ some '0' := by
    intro hzero
    have hnot := List.head?_dropWhile_not (· == '0') ds
    simp [hzero] at hnot
  rw [← valueOf_dropWhile ds, ← values_eq_digits hrest hhead, map_upperDigit_values hrest]

/-- Texts have the same normal form exactly if they denote the same number. -/
theorem normalize_eq_iff {s t : String} : normalize s = normalize t ↔ value s = value t := by
  constructor
  · intro h
    rw [← value_normalize s, h, value_normalize]
  · intro h
    have hdigits : valueOf (digits s.toList) = valueOf (digits t.toList) := by
      rw [valueOf_digits, valueOf_digits]
      exact h
    rw [normalize, normalize, canonicalDigits, canonicalDigits,
      dropWhile_eq_digits (areDigits_digits _), dropWhile_eq_digits (areDigits_digits _), hdigits]

theorem chars_append_singleton (digitOf : Nat → Char) (b : Bytes) (octet : UInt8) :
    Hex.chars digitOf (b ++ [octet]) =
      Hex.chars digitOf b ++ [digitOf (octet.toNat / 16), digitOf (octet.toNat % 16)] := by
  induction b with
  | nil => rfl
  | cons first rest ih => rw [List.cons_append, Hex.chars, ih]; rfl

theorem valueOf_append_singleton (s : List Char) {v : Nat} (h : Hex.value? c = some v) :
    valueOf (s ++ [c]) = 16 * valueOf s + v := by
  rw [valueOf, List.filterMap_append, List.reverse_append, List.filterMap_cons_some h,
    List.filterMap_nil, List.reverse_singleton, List.singleton_append, Nat.ofDigits_cons,
    Nat.add_comm]
  rfl

/-- The digits of octets denote the number that the octets are. -/
theorem value_toUpperHex (b : Bytes) : value b.toUpperHex = Bytes.toNat b := by
  rw [value, Bytes.toUpperHex, String.toList_ofList]
  induction b using List.reverseRecOn with
  | nil => rfl
  | append_singleton b octet ih =>
      have hlt := octet.toNat_lt
      have hhigh := Hex.value?_upperDigit (octet.toNat / 16) (by omega)
      have hlow := Hex.value?_upperDigit (octet.toNat % 16) (by omega)
      have hnumber : Bytes.toNat (b ++ [octet]) = Bytes.toNat b * 256 + octet.toNat := by
        simp [Bytes.toNat]
      rw [chars_append_singleton, List.append_cons, valueOf_append_singleton _ hlow,
        valueOf_append_singleton _ hhigh, ih, hnumber]
      omega

/-- Octets have the same normal form exactly if they are the same number. -/
theorem ofBytes_eq_iff {a b : Bytes} : ofBytes a = ofBytes b ↔ Bytes.toNat a = Bytes.toNat b := by
  rw [ofBytes, ofBytes, normalize_eq_iff, value_toUpperHex, value_toUpperHex]

/-- Digits in canonical form are zero, or complete octets of which the first is not zero. -/
theorem canonicalDigits_cases (h : AreDigits ds) :
    canonicalDigits ds = ['0'] ∨ IsOctets (canonicalDigits ds) := by
  have hcapital : ∀ c ∈ canonicalDigits ds, c ∈ "0123456789ABCDEF".toList := by
    intro c hc
    obtain ⟨hdigit, hupper⟩ := areDigits_canonicalDigits h c hc
    exact mem_capitals hdigit hupper
  cases hdrop : ds.dropWhile (· == '0') with
  | nil =>
      left
      rw [canonicalDigits, hdrop]
  | cons d rest =>
      right
      have hd : d ≠ '0' := by
        have hnot := List.head?_dropWhile_not (· == '0') ds
        simpa [hdrop] using hnot
      by_cases heven : rest.length % 2 = 0
      · have hpadded : canonicalDigits ds = '0' :: d :: rest := by
          simp [canonicalDigits, hdrop, heven]
        refine ⟨?_, hcapital, '0', d, rest, hpadded, fun hzero => hd hzero.2⟩
        rw [hpadded, List.length_cons, List.length_cons]
        omega
      · have hwhole : canonicalDigits ds = d :: rest := by
          simp [canonicalDigits, hdrop, heven]
        cases rest with
        | nil => exact absurd rfl heven
        | cons low more =>
            refine ⟨?_, hcapital, d, low, more, hwhole, fun hzero => hd hzero.1⟩
            rw [List.length_cons] at heven
            rw [hwhole, List.length_cons, List.length_cons]
            omega

theorem normalize_cases (s : String) : normalize s = "0" ∨ IsOctets (normalize s).toList := by
  rw [normalize, String.toList_ofList]
  rcases canonicalDigits_cases (areDigits_digits s.toList) with hzero | hoctets
  · left
    rw [hzero]
  · exact .inr hoctets

/-- The normal form of a serial number stands for the number alone, whatever the spelling and the
padding, and has one shape. -/
theorem normalize_identifies_numbers :
    (∀ s t : String, normalize s = normalize t ↔ value s = value t) ∧
      (∀ a b : Bytes, ofBytes a = ofBytes b ↔ Bytes.toNat a = Bytes.toNat b) ∧
      ∀ s : String, (normalize s = "0" ∨ IsOctets (normalize s).toList) ∧
        normalize (normalize s) = normalize s :=
  ⟨fun _ _ => normalize_eq_iff, fun _ _ => ofBytes_eq_iff,
    fun s => ⟨normalize_cases s, normalize_normalize s⟩⟩

example : normalize "0x0abc" = "0ABC" ∧ value "0x0abc" = 0xABC := by decide

end SerialNumber

end Mrtd
