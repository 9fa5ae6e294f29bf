import Mrtd.Der.Value

/-!
Object identifiers and the numbers they consist of. An identifier that is put together of numbers is
read as these numbers, as long as each fits, and the dotted form tells the numbers. A number takes at
most five octets, so few numbers make a permitted identifier.
-/

namespace Mrtd

open Asn1 (ObjectIdentifier)
open Asn1.ObjectIdentifier (joinDots)

namespace Asn1.ObjectIdentifier

theorem dot_not_mem_toString (n : Nat) : '.' ∉ (toString n).toList := by
  intro hdot
  rw [Nat.toString_eq_ofList_toDigits, String.toList_ofList] at hdot
  have hdigit : '.'.isDigit = true := Nat.isDigit_of_mem_toDigits (by decide) (by decide) hdot
  exact absurd hdigit (by decide)

theorem splitOn_joinDots {numbers : List Nat} (h : numbers ≠ []) :
    (joinDots numbers).toList.splitOn '.' = numbers.map fun n => (toString n).toList := by
  have hpieces : ∀ piece ∈ numbers.map (fun n => (toString n).toList), '.' ∉ piece := by
    intro piece hpiece
    obtain ⟨n, _, rfl⟩ := List.mem_map.1 hpiece
    exact dot_not_mem_toString n
  rw [joinDots, String.toList_intercalate, List.map_map]
  exact List.splitOn_intercalate '.' hpieces (by simpa using h)

/-- The dotted form tells the numbers, if there are any. -/
theorem joinDots_injective {as bs : List Nat} (ha : as ≠ []) (hb : bs ≠ [])
    (h : joinDots as = joinDots bs) : as = bs := by
  have hpieces := splitOn_joinDots ha
  rw [h, splitOn_joinDots hb] at hpieces
  have htext : Function.Injective fun n : Nat => (toString n).toList := by
    intro m n hmn
    simp only [Nat.toString_eq_ofList_toDigits, String.toList_ofList] at hmn
    rw [← Nat.ofDigitChars_ten_toDigits (n := m), hmn, Nat.ofDigitChars_ten_toDigits]
  exact (List.map_inj_right htext).1 hpieces.symm

end Asn1.ObjectIdentifier

namespace Der.Oid

/-- A number that is read back from its octets. -/
def IsArc (n : Nat) : Prop :=
  n < 0x10000000 ∨ n < 0x100000000 ∧ n % 0x80 < 0x10

instance (n : Nat) : Decidable (IsArc n) :=
  inferInstanceAs (Decidable (_ ∨ _))

/-- The octets of a number: base 128, with the high bit on all but the last. -/
def arcOctets (n : Nat) : Bytes :=
  let high (i : Nat) : UInt8 := 0x80 + UInt8.ofNat (n / Nat.pow 0x80 i % 0x80)
  let last : UInt8 := UInt8.ofNat (n % 0x80)
  if n < 0x80 then [last]
  else if n < 0x4000 then [high 1, last]
  else if n < 0x200000 then [high 2, high 1, last]
  else if n < 0x10000000 then [high 3, high 2, high 1, last]
  else [high 4, high 3, high 2, high 1, last]

theorem arcs?_high {value size b : Nat} (hsize : size < 4) (hb : b < 0x80) (rest : Bytes) :
    arcs? value size ((0x80 + UInt8.ofNat b) :: rest) = arcs? (value * 128 + b) (size + 1) rest := by
  have hoctet : (0x80 + UInt8.ofNat b).toNat = 0x80 + b := by
    have hmark : (0x80 : UInt8).toNat = 0x80 := rfl
    rw [UInt8.toNat_add, UInt8.toNat_ofNat']
    omega
  have hlow : (0x80 + b) % 128 = b := by omega
  rw [arcs?, hoctet, if_neg (by omega), hlow]
  exact if_neg (by omega)

theorem arcs?_last {value size b : Nat} (hsize : size < 4 ∨ b < 0x10) (hb : b < 0x80)
    (rest : Bytes) :
    arcs? value size (UInt8.ofNat b :: rest) =
      (arcs? 0 0 rest).map ((value * 128 + b) % Nat.pow 2 32 :: ·) := by
  have hoctet : (UInt8.ofNat b).toNat = b := by
    rw [UInt8.toNat_ofNat']
    omega
  have hlow : b % 128 = b := by omega
  rw [arcs?, hoctet, if_neg (by omega), hlow]
  exact if_pos hb

/-- A number is read back from its octets, whatever follows them. -/
theorem arcs?_arcOctets {n : Nat} (h : IsArc n) (rest : Bytes) :
    arcs? 0 0 (arcOctets n ++ rest) = (arcs? 0 0 rest).map (n :: ·) := by
  have hlow (m : Nat) : m % 0x80 < 0x80 := Nat.mod_lt m (by decide)
  unfold IsArc at h
  by_cases h1 : n < 0x80
  · have hn : n % 0x80 % 4294967296 = n := by omega
    simp [arcOctets, h1, arcs?_last, hlow, hn]
  by_cases h2 : n < 0x4000
  · have hn : (n / 128 % 128 * 128 + n % 128) % 4294967296 = n := by omega
    simp [arcOctets, h1, h2, arcs?_high, arcs?_last, hlow, hn]
  by_cases h3 : n < 0x200000
  · have hn : ((n / 16384 % 128 * 128 + n / 128 % 128) * 128 + n % 128) % 4294967296 = n := by omega
    simp [arcOctets, h1, h2, h3, arcs?_high, arcs?_last, hlow, hn]
  by_cases h4 : n < 0x10000000
  · have hn : (((n / 2097152 % 128 * 128 + n / 16384 % 128) * 128 + n / 128 % 128) * 128 +
        n % 128) % 4294967296 = n := by omega
    simp [arcOctets, h1, h2, h3, h4, arcs?_high, arcs?_last, hlow, hn]
  · have hfifth : n % 128 < 16 := by omega
    have hn : ((((n / 268435456 % 128 * 128 + n / 2097152 % 128) * 128 + n / 16384 % 128) * 128 +
        n / 128 % 128) * 128 + n % 128) % 4294967296 = n := by omega
    simp [arcOctets, h1, h2, h3, h4, arcs?_high, arcs?_last, hlow, hfifth, hn]

/-- Numbers that make a permitted identifier. The first two share an octet. -/
structure Arcs where
  first : Nat
  second : Nat
  rest : List Nat
  first_lt : first < 3
  second_lt : second < 40
  isArc : ∀ n ∈ rest, IsArc n
  length_ge : 2 ≤ (rest.flatMap arcOctets).length
  length_le : (rest.flatMap arcOctets).length ≤ 38

namespace Arcs

def ofNumbers (first second : Nat) (rest : List Nat)
    (h : first < 3 ∧ second < 40 ∧ (∀ n ∈ rest, IsArc n) ∧
      2 ≤ (rest.flatMap arcOctets).length ∧ (rest.flatMap arcOctets).length ≤ 38) : Arcs :=
  ⟨first, second, rest, h.1, h.2.1, h.2.2.1, h.2.2.2.1, h.2.2.2.2⟩

def all (a : Arcs) : List Nat :=
  a.first :: a.second :: a.rest

def oid (a : Arcs) : ObjectIdentifier :=
  ⟨UInt8.ofNat (40 * a.first + a.second) :: a.rest.flatMap arcOctets⟩

theorem arcs?_rest {rest : List Nat} (h : ∀ n ∈ rest, IsArc n) :
    arcs? 0 0 (rest.flatMap arcOctets) = some rest := by
  induction rest with
  | nil => rfl
  | cons n more ih =>
      obtain ⟨hfirst, hmore⟩ := List.forall_mem_cons.1 h
      rw [List.flatMap_cons, arcs?_arcOctets hfirst, ih hmore]
      rfl

/-- An identifier is read as the numbers that it was put together of. -/
theorem allArcs?_oid (a : Arcs) : allArcs? a.oid = some a.all := by
  have hfirst := a.first_lt
  have hsecond := a.second_lt
  have hoctet : (UInt8.ofNat (40 * a.first + a.second)).toNat = 40 * a.first + a.second := by
    rw [UInt8.toNat_ofNat']
    omega
  have hquotient : (40 * a.first + a.second) / 40 = a.first := by omega
  have hremainder : (40 * a.first + a.second) % 40 = a.second := by omega
  rw [allArcs?, oid]
  simp only [hoctet, arcs?_rest a.isArc, hquotient, hremainder]
  exact if_pos (by omega)

theorem isPermitted_oid (a : Arcs) : isPermitted a.oid = true := by
  have hge := a.length_ge
  have hle := a.length_le
  have hlength : a.oid.octets.length = (a.rest.flatMap arcOctets).length + 1 := List.length_cons
  have hbounds : 3 ≤ a.oid.octets.length ∧ a.oid.octets.length ≤ 39 := by omega
  simp [isPermitted, allArcs?_oid, hbounds]

theorem text_oid (a : Arcs) : text a.oid = joinDots a.all := by
  rw [text, allArcs?_oid, Option.getD_some]

end Arcs

/-- An arc takes one octet at least and five at most. -/
theorem length_of_arcs? {value size : Nat} {b : Bytes} {arcs : List Nat} (hsize : size ≤ 4)
    (h : arcs? value size b = some arcs) :
    arcs.length ≤ b.length ∧ b.length + size ≤ 5 * arcs.length := by
  induction b generalizing value size arcs with
  | nil =>
      rw [arcs?] at h
      split at h
      · obtain rfl := Option.some.inj h
        simpa
      · cases h
  | cons octet rest ih =>
      rw [arcs?] at h
      split at h
      · cases h
      · rename_i hfifth
        dsimp only at h
        split at h
        · obtain ⟨later, hlater, rfl⟩ := Option.map_eq_some_iff.1 h
          have hrest := ih (Nat.zero_le 4) hlater
          simp only [List.length_cons]
          omega
        · rename_i hhigh
          have hrest := ih (by omega) h
          simp only [List.length_cons]
          omega

/-- Identifiers with the dotted form of a few numbers are permitted. -/
theorem isPermitted_of_text_eq {o : ObjectIdentifier} {numbers : List Nat}
    (hfew : 4 ≤ numbers.length ∧ numbers.length ≤ 9) (h : text o = joinDots numbers) :
    isPermitted o = true := by
  have hne : numbers ≠ [] := by
    rintro rfl
    exact absurd hfew.1 (by decide)
  have harcs : allArcs? o = some numbers := by
    unfold text at h
    by_cases hnone : (allArcs? o).getD [] = []
    · -- Without numbers the dotted form is empty.
      have hpieces := congrArg List.length (Asn1.ObjectIdentifier.splitOn_joinDots hne)
      rw [← h, hnone, List.length_map] at hpieces
      have hone : ((joinDots []).toList.splitOn '.').length = 1 := by decide
      omega
    · have hnumbers := Asn1.ObjectIdentifier.joinDots_injective hnone hne h
      cases hall : allArcs? o with
      | none => exact absurd (by rw [hall]; rfl) hnone
      | some all => rw [← hnumbers, hall, Option.getD_some]
  have hbounds : 3 ≤ o.octets.length ∧ o.octets.length ≤ 39 := by
    have hread := harcs
    unfold allArcs? at hread
    split at hread
    · cases hread
    · rename_i first rest hoctets
      split at hread
      · obtain ⟨arcs, hrest, rfl⟩ := Option.map_eq_some_iff.1 hread
        have hlength := length_of_arcs? (Nat.zero_le 4) hrest
        simp only [List.length_cons] at hfew
        rw [hoctets, List.length_cons]
        omega
      · cases hread
  simp [isPermitted, harcs, hbounds]

end Der.Oid

end Mrtd
