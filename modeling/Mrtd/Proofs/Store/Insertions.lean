import Mathlib.Data.Finset.Card
import Mathlib.Data.List.Nodup
import Mrtd.Proofs.Trust.Walk
import Mrtd.Repository

/-!
The certificate store as a function of what was inserted. It holds the first certificate of every
fingerprint, in the order of insertion, so whatever is inserted again, also with other contents,
changes nothing. Each look-up is then a selection from the first certificates, and the look-up by
fingerprint, which passes over letter case, finds the first one that was inserted, because
fingerprints are written in small letters.
-/

namespace Mrtd

/-- A digit as fingerprints are written with. -/
def Hex.isLowerDigit (c : Char) : Bool :=
  ('0' ≤ c && c ≤ '9') || ('a' ≤ c && c ≤ 'f')

/-- A text in hexadecimal digits without capitals. -/
def Hex.IsLower (s : String) : Prop :=
  ∀ c ∈ s.toList, Hex.isLowerDigit c = true

namespace Hex

theorem isLowerDigit_digit : ∀ n < 16, isLowerDigit (digit n) = true := by decide

theorem isLower_toHex (b : Bytes) : IsLower b.toHex := by
  rw [IsLower, Bytes.toHex, String.toList_ofList]
  induction b with
  | nil => simp [chars]
  | cons octet rest ih =>
      have hlt := octet.toNat_lt
      intro c hc
      simp only [chars, List.mem_cons] at hc
      rcases hc with rfl | rfl | hc
      · exact isLowerDigit_digit _ (by omega)
      · exact isLowerDigit_digit _ (by omega)
      · exact ih c hc

theorem toLower_of_lowerDigit_code : ∀ n < 128, isLowerDigit (Char.ofNat n) = true →
    (Char.ofNat n).toLower = Char.ofNat n := by
  decide

theorem toLower_of_isLowerDigit {c : Char} (h : isLowerDigit c = true) : c.toLower = c := by
  have hcode : c.toNat < 128 := by
    simp only [isLowerDigit, Bool.or_eq_true, Bool.and_eq_true, decide_eq_true_eq] at h
    have hle : c ≤ 'f' := by
      rcases h with ⟨_, hdigit⟩ | ⟨_, hletter⟩
      · exact Char.le_trans hdigit (by decide)
      · exact hletter
    have hbound : c.toNat ≤ ('f').toNat := hle
    exact Nat.lt_of_le_of_lt hbound (by decide)
  rw [← Char.ofNat_toNat c] at h ⊢
  exact toLower_of_lowerDigit_code c.toNat hcode h

theorem IsLower.asciiLower_eq {s : String} (h : IsLower s) : Text.asciiLower s = s := by
  have hmap : s.toList.map Char.toLower = s.toList.map id :=
    List.map_congr_left fun c hc => toLower_of_isLowerDigit (h c hc)
  rw [Text.asciiLower, hmap, List.map_id, String.ofList_toList]

end Hex

theorem isLower_fingerprintOf (octets : Bytes) : Hex.IsLower (fingerprintOf octets) :=
  Hex.isLower_toHex _

namespace CertificateStore

/-- Two certificates that are one to the store. -/
def sameFingerprint (a b : Certificate) : Bool :=
  a.fingerprint == b.fingerprint

/-- Of some certificates, the first of every fingerprint. -/
def firsts (inserted : List Certificate) : List Certificate :=
  inserted.eraseDupsBy sameFingerprint

/-- A certificate with whose fingerprint nothing was inserted before it. -/
def IsFirst (inserted : List Certificate) (c : Certificate) : Prop :=
  ∃ before after, inserted = before ++ c :: after ∧
    ∀ earlier ∈ before, earlier.fingerprint ≠ c.fingerprint

variable {s : CertificateStore} {c : Certificate} {inserted : List Certificate}

theorem holds_insert (s : CertificateStore) (c : Certificate) (fingerprint : String) :
    (s.insert c).holds fingerprint = (s.holds fingerprint || c.fingerprint == fingerprint) := by
  cases hheld : s.holds c.fingerprint with
  | true =>
      rw [insert_of_holds hheld]
      cases hprint : c.fingerprint == fingerprint with
      | false => rw [Bool.or_false]
      | true => rw [← eq_of_beq hprint, hheld, Bool.or_true]
  | false => simp [holds, certificates_insert hheld]

/-- A store goes on with the first of every fingerprint that it does not hold yet. -/
theorem certificates_foldl_insert (s : CertificateStore) (cs : List Certificate) :
    (cs.foldl insert s).certificates =
      s.certificates ++ firsts (cs.filter fun c => !s.holds c.fingerprint) := by
  induction cs generalizing s with
  | nil => exact (List.append_nil _).symm
  | cons c rest ih =>
      rw [List.foldl_cons, ih]
      cases hheld : s.holds c.fingerprint with
      | true =>
          rw [insert_of_holds hheld, List.filter_cons_of_neg (by simp [hheld])]
      | false =>
          -- What comes later under the fingerprint of the new certificate is passed over.
          have hlater : (rest.filter fun d => !(s.insert c).holds d.fingerprint) =
              (rest.filter fun d => !s.holds d.fingerprint).filter fun d =>
                decide (sameFingerprint d c = false) := by
            rw [List.filter_filter]
            refine List.filter_congr fun d _ => ?_
            rw [holds_insert, sameFingerprint, Bool.not_or, Bool.and_comm, BEq.comm]
            cases d.fingerprint == c.fingerprint <;> rfl
          rw [List.filter_cons_of_pos (by simp [hheld]), firsts, firsts, List.eraseDupsBy_cons,
            certificates_insert hheld, hlater, List.append_assoc]
          rfl

theorem certificates_ofList (inserted : List Certificate) :
    (ofList inserted).certificates = firsts inserted := by
  have hall : (inserted.filter fun c => !empty.holds c.fingerprint) = inserted :=
    List.filter_eq_self.2 fun _ _ => rfl
  rw [ofList, certificates_foldl_insert, hall]
  exact List.nil_append _

theorem nodup_firsts (inserted : List Certificate) :
    ((firsts inserted).map (·.fingerprint)).Nodup :=
  certificates_ofList inserted ▸ nodup_ofList inserted

/-- Under a fingerprint the first certificate counts that was inserted. -/
theorem find?_foldl_insert (s : CertificateStore) (cs : List Certificate) (fingerprint : String) :
    ((cs.foldl insert s).certificates.find? (·.fingerprint == fingerprint)) =
      (s.certificates ++ cs).find? (·.fingerprint == fingerprint) := by
  induction cs generalizing s with
  | nil => rw [List.append_nil]; rfl
  | cons c rest ih =>
      have hinsert : (s.insert c).certificates.find? (·.fingerprint == fingerprint) =
          (s.certificates ++ [c]).find? (·.fingerprint == fingerprint) := by
        cases hheld : s.holds c.fingerprint with
        | false => rw [certificates_insert hheld]
        | true =>
            rw [insert_of_holds hheld, List.find?_append]
            cases hfind : s.certificates.find? (·.fingerprint == fingerprint) with
            | some _ => rfl
            | none =>
                -- Nothing is held under the fingerprint, so it is not that of the certificate.
                obtain ⟨held, hmem, hprint⟩ := holds_eq_true.1 hheld
                have hother := List.find?_eq_none.1 hfind held hmem
                rw [hprint] at hother
                rw [Option.none_or, List.find?_singleton, if_neg hother]
      rw [List.foldl_cons, ih, List.find?_append, hinsert, ← List.find?_append, List.append_assoc]
      rfl

theorem find?_firsts (inserted : List Certificate) (fingerprint : String) :
    (firsts inserted).find? (·.fingerprint == fingerprint) =
      inserted.find? (·.fingerprint == fingerprint) := by
  rw [← certificates_ofList]
  exact find?_foldl_insert empty inserted fingerprint

theorem mem_firsts_iff : c ∈ firsts inserted ↔ IsFirst inserted c := by
  have hfirst : inserted.find? (·.fingerprint == c.fingerprint) = some c ↔ IsFirst inserted c := by
    simp [List.find?_eq_some_iff_append, IsFirst]
  rw [← hfirst, ← find?_firsts]
  constructor
  · intro hmem
    cases hfind : (firsts inserted).find? (·.fingerprint == c.fingerprint) with
    | none => exact absurd (beq_self_eq_true _) (List.find?_eq_none.1 hfind c hmem)
    | some d =>
        have hprint : d.fingerprint = c.fingerprint := eq_of_beq (List.find?_some hfind :)
        exact congrArg some (List.inj_on_of_nodup_map (nodup_firsts inserted)
          (List.mem_of_find?_eq_some hfind) hmem hprint)
  · intro hfind
    exact List.mem_of_find?_eq_some hfind

theorem length_firsts (inserted : List Certificate) :
    (firsts inserted).length = (inserted.map (·.fingerprint)).toFinset.card := by
  have hprints : ((firsts inserted).map (·.fingerprint)).toFinset =
      (inserted.map (·.fingerprint)).toFinset := by
    ext fingerprint
    simp only [List.mem_toFinset, List.mem_map]
    constructor
    · rintro ⟨c, hc, rfl⟩
      obtain ⟨before, after, rfl, _⟩ := mem_firsts_iff.1 hc
      exact ⟨c, List.mem_append_cons_self, rfl⟩
    · rintro ⟨c, hc, rfl⟩
      obtain ⟨held, hheld, hprint⟩ := holds_eq_true.1 (holds_ofList hc)
      exact ⟨held, certificates_ofList inserted ▸ hheld, hprint⟩
  rw [← hprints, List.toFinset_card_of_nodup (nodup_firsts inserted), List.length_map]

theorem findByFingerprint?_eq (hprints : ∀ c ∈ s.certificates, Hex.IsLower c.fingerprint)
    (query : String) :
    s.findByFingerprint? query =
      s.certificates.find? (·.fingerprint == Text.asciiLower query) := by
  rw [findByFingerprint?, ← List.head?_filter, ← List.head?_filter]
  refine congrArg List.head? (List.filter_congr fun c hc => ?_)
  rw [Text.eqIgnoreAsciiCase, (hprints c hc).asciiLower_eq]

/-- An answer with all that matches: the first certificates of their fingerprints that do, in the
order in which they were inserted, and none of them twice. -/
structure Selects (inserted : List Certificate) (isMatch : Certificate → Bool)
    (found : List Certificate) : Prop where
  eq_filter : found = (firsts inserted).filter isMatch
  mem_iff : ∀ c, c ∈ found ↔ IsFirst inserted c ∧ isMatch c = true
  distinct : (found.map (·.fingerprint)).Nodup

theorem selects_filter (inserted : List Certificate) (isMatch : Certificate → Bool) :
    Selects inserted isMatch ((ofList inserted).certificates.filter isMatch) := by
  rw [certificates_ofList]
  refine ⟨rfl, fun c => ?_, (nodup_firsts inserted).sublist (List.filter_sublist.map _)⟩
  rw [List.mem_filter, mem_firsts_iff]

/-- What a store is that insertions, one after the other, turned the empty store into. -/
structure Reflects (s : CertificateStore) (inserted : List Certificate) : Prop where
  /-- Insertion answers whether the fingerprint is new. -/
  added_iff : ∀ c, (s.add c).1 = true ↔
    ∀ earlier ∈ inserted, earlier.fingerprint ≠ c.fingerprint
  add_eq_ofList : ∀ c, (s.add c).2 = ofList (inserted ++ [c])
  size_eq : s.size = (inserted.map (·.fingerprint)).toFinset.card
  distinct : (s.certificates.map (·.fingerprint)).Nodup
  findByFingerprint : ∀ query, s.repository.findByFingerprint query =
    .ok (inserted.find? (·.fingerprint == Text.asciiLower query))
  findBySubject : ∀ name, ∃ found, s.repository.findBySubject name = .ok found ∧
    Selects inserted (fun c => DistinguishedName.same c.subject name) found
  findByIssuer : ∀ name, ∃ found, s.repository.findByIssuer name = .ok found ∧
    Selects inserted (fun c => DistinguishedName.same c.issuer name) found
  findByType : ∀ type, ∃ found, s.repository.findByType type = .ok found ∧
    Selects inserted (·.type == type) found
  findByCountry : ∀ country, ∃ found, s.repository.findByCountry country = .ok found ∧
    Selects inserted (fun c => c.country.any fun code => Text.eqIgnoreAsciiCase code country) found
  findByCountryAndType : ∀ country type, ∃ found,
    s.repository.findByCountryAndType country type = .ok found ∧
      Selects inserted (fun c => c.type == type &&
        c.country.any fun code => Text.eqIgnoreAsciiCase code country) found
  findBySerialAndIssuer : ∀ serial issuer, s.repository.findBySerialAndIssuer serial issuer =
    .ok ((firsts inserted).find? fun c =>
      c.serial == SerialNumber.normalize serial && DistinguishedName.same c.issuer issuer)

/-- After every sequence of insertions the store holds the first certificate of each fingerprint,
in this order, and answers from these. -/
theorem ofList_reflects {inserted : List Certificate}
    (hprints : ∀ c ∈ inserted, Hex.IsLower c.fingerprint) :
    (ofList inserted).Reflects inserted where
  added_iff c := by
    rw [add_eq, Bool.not_eq_true', ← Bool.not_eq_true, holds_eq_true]
    constructor
    · intro hnone earlier hearlier heq
      exact hnone (holds_eq_true.1 (heq ▸ holds_ofList hearlier))
    · rintro hnew ⟨held, hheld, heq⟩
      exact hnew held (mem_of_mem_ofList hheld) heq
  add_eq_ofList c := by
    rw [add_eq, ofList, ofList, List.foldl_append]
    rfl
  size_eq := by rw [size, certificates_ofList, length_firsts]
  distinct := nodup_ofList inserted
  findByFingerprint query := by
    have hheld : ∀ c ∈ (ofList inserted).certificates, Hex.IsLower c.fingerprint :=
      fun c hc => hprints c (mem_of_mem_ofList hc)
    have hfind := findByFingerprint?_eq hheld query
    rw [certificates_ofList, find?_firsts] at hfind
    exact congrArg Except.ok hfind
  findBySubject name := ⟨_, rfl, selects_filter inserted _⟩
  findByIssuer name := ⟨_, rfl, selects_filter inserted _⟩
  findByType type := ⟨_, rfl, selects_filter inserted _⟩
  findByCountry country := ⟨_, rfl, selects_filter inserted _⟩
  findByCountryAndType country type := by
    have hboth : ((ofList inserted).findByCountry country).filter (·.type == type) =
        (ofList inserted).certificates.filter fun c => c.type == type &&
          c.country.any fun code => Text.eqIgnoreAsciiCase code country := List.filter_filter
    exact ⟨_, congrArg Except.ok hboth, selects_filter inserted _⟩
  findBySerialAndIssuer serial issuer := by
    rw [← certificates_ofList]
    rfl

end CertificateStore

namespace Specimen

/-- A certificate under the fingerprint of an octet. -/
def printed (octet : UInt8) (c : Certificate) : Certificate :=
  { c with fingerprint := fingerprintOf [octet] }

/-- Another certificate comes again under the fingerprint of the root. -/
def insertedTwice : List Certificate := [printed 1 root, printed 2 signer, printed 1 successor]

theorem insertedTwice_reflects :
    (∀ c ∈ insertedTwice, Hex.IsLower c.fingerprint) ∧
      (CertificateStore.ofList insertedTwice).Reflects insertedTwice ∧
      (CertificateStore.ofList insertedTwice).certificates = [printed 1 root, printed 2 signer] ∧
      (CertificateStore.ofList insertedTwice).findByFingerprint?
        "4BF5122F344554C53BDE2EBB8CD2B7E3D1600AD631C385A5D7CCE23C7785459A" =
          some (printed 1 root) := by
  have hprints : ∀ c ∈ insertedTwice, Hex.IsLower c.fingerprint := by
    intro c hc
    simp only [insertedTwice, List.mem_cons, List.not_mem_nil, or_false] at hc
    rcases hc with rfl | rfl | rfl <;> exact isLower_fingerprintOf _
  exact ⟨hprints, CertificateStore.ofList_reflects hprints, by decide +kernel, by decide +kernel⟩

end Specimen

end Mrtd
