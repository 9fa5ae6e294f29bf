import Mrtd.Proofs.Asn1.Name
import Mrtd.Proofs.StoreOrder
import Mrtd.RevocationList.Reader

/-!
What the identity of a record covers. Certificates and revocation lists are read from the element at
the front of their input. The octets that follow it decide nothing about the fields, but they enter
the identity, and with it every comparison of records. So one element has as many identities as
there are octets to put behind it.
-/

namespace Mrtd

namespace Asn1

/-- The octets of the element at the front. -/
def leading? (b : Bytes) : Option Bytes :=
  (readElement b).map fun read => b.take (b.length - read.2.length)

variable {b front : Bytes}

theorem leading?_of_readElement {rest : Bytes} {e : Element}
    (h : readElement (front ++ rest) = some (e, rest)) : leading? (front ++ rest) = some front := by
  have hlength : (front ++ rest).length - rest.length = front.length := by
    rw [List.length_append]
    omega
  rw [leading?, h, Option.map_some, hlength, List.take_left]

/-- The element at the front is taken alike with anything behind it. -/
theorem exists_of_leading? (h : leading? b = some front) :
    ∃ e rest, b = front ++ rest ∧ ∀ rest', readElement (front ++ rest') = some (e, rest') := by
  obtain ⟨⟨e, rest⟩, hread, _⟩ := Option.map_eq_some_iff.1 h
  obtain ⟨taken, rfl, htaken⟩ := readElement_front hread
  obtain rfl : taken = front := by
    rw [leading?_of_readElement hread] at h
    exact Option.some.inj h
  exact ⟨e, rest, rfl, htaken⟩

namespace Reader

variable {α : Type} {number : Nat} {r : Reader α}

/-- Of a constructed element only the contents are read. -/
theorem first?_fieldsOf_congr {b' rest rest' : Bytes} {e : Element}
    (h : readElement b = some (e, rest)) (h' : readElement b' = some (e, rest')) :
    (fieldsOf number r).first? b = (fieldsOf number r).first? b' := by
  have htaken : element b = .ok (e, rest) := by rw [element, ofOption, h]
  have htaken' : element b' = .ok (e, rest') := by rw [element, ofOption, h']
  rw [first?, first?, fieldsOf, bind_ok htaken, bind_ok htaken']
  cases e.header.constructed with
  | false => rfl
  | true =>
      simp only [Bool.not_true, Bool.false_eq_true, if_false]
      cases hnumber : e.number == number with
      | false => rfl
      | true =>
          rw [ensure_bind rfl, ensure_bind rfl, within, within]
          cases r e.content <;> rfl

theorem first?_fieldsOf_eq_none (h : readElement b = none) :
    (fieldsOf number r).first? b = none := by
  have hfail : fieldsOf number r b = .error .absent := by
    change (element b >>= fun read => _) = _
    rw [element, ofOption, h]
    rfl
  rw [first?, hfail]

/-- What is read from an input is read from its leading element, if it has one. -/
theorem first?_fieldsOf_of_leading? (h : leading? b = some front) :
    (fieldsOf number r).first? b = (fieldsOf number r).first? front := by
  obtain ⟨e, rest, rfl, hread⟩ := exists_of_leading? h
  exact first?_fieldsOf_congr (hread rest) (by simpa using hread [])

theorem exists_leading?_of_first? {a : α} (h : (fieldsOf number r).first? b = some a) :
    ∃ front, leading? b = some front := by
  cases hread : readElement b with
  | none =>
      rw [first?_fieldsOf_eq_none hread] at h
      cases h
  | some read => exact ⟨_, by rw [leading?, hread, Option.map_some]⟩

end Reader

/-- A reading takes the element at the front of its input, and gives what it reads there the identity
of the whole input. -/
structure IdentifiesInput {α : Type} (read : Bytes → Except Error α) (identified : α → Bytes → α) :
    Prop where
  exists_leading? : ∀ b a, read b = .ok a → ∃ front, leading? b = some front
  read_eq : ∀ b front, leading? b = some front → read b = (read front).map (identified · b)
  identified_twice : ∀ a b b', identified (identified a b) b' = identified a b'

/-- What is accepted is accepted again with anything else behind its leading element. -/
theorem IdentifiesInput.exists_front {α : Type} {read : Bytes → Except Error α}
    {identified : α → Bytes → α} {a : α} (h : IdentifiesInput read identified)
    (hread : read b = .ok a) :
    a = identified a b ∧ ∃ front, leading? b = some front ∧
      ∀ b', leading? b' = some front → read b' = .ok (identified a b') := by
  obtain ⟨front, hfront⟩ := h.exists_leading? b a hread
  rw [h.read_eq b front hfront] at hread
  cases hof : read front with
  | error e =>
      rw [hof] at hread
      cases hread
  | ok element =>
      rw [hof] at hread
      obtain rfl : identified element b = a := Except.ok.inj hread
      refine ⟨(h.identified_twice element b b).symm, front, hfront, fun b' hb' => ?_⟩
      rw [h.read_eq b' front hb', hof, h.identified_twice]
      rfl

end Asn1

namespace Certificate

variable {type : CertificateType} {b front : Bytes} {c : Certificate}

/-- The record with the identity of some octets. -/
def identifiedBy (c : Certificate) (octets : Bytes) : Certificate :=
  { c with der := octets, fingerprint := fingerprintOf octets }

theorem ofEncoded_identifiedBy (type : CertificateType) (b b' : Bytes) (e : EncodedCertificate) :
    ofEncoded type b' e = (ofEncoded type b e).map (·.identifiedBy b') := by
  simp only [ofEncoded]
  cases Extension.unique? e.body.extensions Extension.basicConstraints with
  | none => rfl
  | some basic =>
      cases Extension.unique? e.body.extensions Extension.keyUsage with
      | none => rfl
      | some usage =>
          cases usage with
          | none => rfl
          | some raw => cases husage : Extension.keyUsage? raw.value <;> simp [husage] <;> rfl

/-- An input is read as its leading element is, but for its identity. -/
theorem ofDer_of_leading? (h : Asn1.leading? b = some front) :
    ofDer type b = (ofDer type front).map (·.identifiedBy b) := by
  have hfirst : EncodedCertificate.reader.first? b = EncodedCertificate.reader.first? front :=
    Asn1.Reader.first?_fieldsOf_of_leading? h
  rw [ofDer, ofDer, decode, decode, hfirst]
  cases EncodedCertificate.reader.first? front with
  | none => rfl
  | some e =>
      dsimp only
      rw [ofEncoded_identifiedBy type front b]
      cases ofEncoded type front e <;> rfl

theorem exists_leading?_of_ofDer (h : ofDer type b = .ok c) :
    ∃ front, Asn1.leading? b = some front := by
  have hdecode : decode type b = .ok c := mapError_eq_ok_iff.1 h
  unfold decode at hdecode
  split at hdecode
  · rename_i e hfirst
    exact Asn1.Reader.exists_leading?_of_first? hfirst
  · cases hdecode

theorem ofDer_identifiesInput (type : CertificateType) :
    Asn1.IdentifiesInput (ofDer type) identifiedBy where
  exists_leading? _ _ := exists_leading?_of_ofDer
  read_eq _ _ := ofDer_of_leading?
  identified_twice _ _ _ := rfl

end Certificate

namespace RevocationList

variable {b front : Bytes} {crl : RevocationList}

/-- The list with the identity of some octets. -/
def identifiedBy (crl : RevocationList) (octets : Bytes) : RevocationList :=
  { crl with id := fingerprintOf octets }

theorem ofDer_of_leading? (h : Asn1.leading? b = some front) :
    ofDer b = (ofDer front).map (·.identifiedBy b) := by
  have hfirst : EncodedRevocationList.reader.first? b =
      EncodedRevocationList.reader.first? front := Asn1.Reader.first?_fieldsOf_of_leading? h
  rw [ofDer, ofDer, hfirst]
  cases EncodedRevocationList.reader.first? front <;> rfl

theorem exists_leading?_of_ofDer (h : ofDer b = .ok crl) :
    ∃ front, Asn1.leading? b = some front := by
  unfold ofDer at h
  split at h
  · rename_i e hfirst
    exact Asn1.Reader.exists_leading?_of_first? hfirst
  · cases h

theorem ofDer_identifiesInput : Asn1.IdentifiesInput ofDer identifiedBy where
  exists_leading? _ _ := exists_leading?_of_ofDer
  read_eq _ _ := ofDer_of_leading?
  identified_twice _ _ _ := rfl

end RevocationList

/-- Whatever is accepted begins with an element, to which it owes every field but its identity. The
identity is that of the whole input, so it is the element's exactly if nothing follows, and anything
else behind the same element is accepted under an identity of its own. -/
theorem identity_covers_input (type : CertificateType) (b : Bytes) :
    (∀ c, Certificate.ofDer type b = .ok c →
      c.der = b ∧ c.fingerprint = fingerprintOf b ∧ ∃ front, Asn1.leading? b = some front ∧
        (c.der = front ↔ Asn1.leading? b = some b) ∧
        ∀ b', Asn1.leading? b' = some front →
          Certificate.ofDer type b' = .ok { c with der := b', fingerprint := fingerprintOf b' }) ∧
    ∀ crl, RevocationList.ofDer b = .ok crl →
      crl.id = fingerprintOf b ∧ ∃ front, Asn1.leading? b = some front ∧
        ∀ b', Asn1.leading? b' = some front →
          RevocationList.ofDer b' = .ok { crl with id := fingerprintOf b' } := by
  constructor
  · intro c hread
    obtain ⟨_, hder, hfingerprint, _⟩ := Certificate.ofDer_record hread
    obtain ⟨_, front, hfront, hrest⟩ :=
      (Certificate.ofDer_identifiesInput type).exists_front hread
    have hwhole : c.der = front ↔ Asn1.leading? b = some b := by
      rw [hder, hfront, Option.some.injEq, eq_comm]
    exact ⟨hder, hfingerprint, front, hfront, hwhole, hrest⟩
  · intro crl hread
    obtain ⟨hidentity, front, hfront, hrest⟩ :=
      RevocationList.ofDer_identifiesInput.exists_front hread
    exact ⟨congrArg RevocationList.id hidentity, front, hfront, hrest⟩

namespace Specimen

open Der Asn1

/-- The encoding of a revocation list without entries. -/
def encodedList (issuer : Der.Name) : Der.Element :=
  construct Tag.sequence [
    construct Tag.sequence [ed25519.element, issuer.element, newYear 0x30],
    ed25519.element, ⟨Tag.bitString, [0, 7]⟩]

/-- Two files with an element, the second of which ends a line behind it. -/
def signerOctets : Bytes := encodedSigner.encode
def signerLine : Bytes := signerOctets ++ [0x0A]
def listOctets : Bytes := (encodedList rootName).encode
def listLine : Bytes := listOctets ++ [0x0A]

theorem exists_ok {α : Type} {x : Except Error α} (h : x.toOption.isSome = true) :
    ∃ a, x = .ok a := by
  obtain ⟨a, ha⟩ := Option.isSome_iff_exists.1 h
  exact ⟨a, toOption_eq_some_iff.1 ha⟩

theorem identity_covers_line :
    (∃ c, Certificate.ofDer .dsc signerLine = .ok c ∧
      c.der = signerLine ∧ c.fingerprint = fingerprintOf signerLine ∧
        ∃ front, leading? signerLine = some front ∧
          (c.der = front ↔ leading? signerLine = some signerLine) ∧
          ∀ b', leading? b' = some front → Certificate.ofDer .dsc b' =
            .ok { c with der := b', fingerprint := fingerprintOf b' }) ∧
    ∃ crl, RevocationList.ofDer listLine = .ok crl ∧
      crl.id = fingerprintOf listLine ∧ ∃ front, leading? listLine = some front ∧
        ∀ b', leading? b' = some front →
          RevocationList.ofDer b' = .ok { crl with id := fingerprintOf b' } := by
  obtain ⟨c, hsigner⟩ : ∃ c, Certificate.ofDer .dsc signerLine = .ok c :=
    exists_ok (by decide +kernel)
  obtain ⟨crl, hlist⟩ : ∃ crl, RevocationList.ofDer listLine = .ok crl :=
    exists_ok (by decide +kernel)
  exact ⟨⟨c, hsigner, (identity_covers_input .dsc signerLine).1 c hsigner⟩,
    crl, hlist, (identity_covers_input .dsc listLine).2 crl hlist⟩

/-- Both files hold the one element and are accepted, as two records. -/
theorem line_changes_identity :
    (leading? signerLine = leading? signerOctets ∧
      ∃ c c', Certificate.ofDer .dsc signerOctets = .ok c ∧
        Certificate.ofDer .dsc signerLine = .ok c' ∧
        c.fingerprint ≠ c'.fingerprint ∧ c.der ≠ c'.der ∧
        leading? signerLine ≠ some signerLine) ∧
    leading? listLine = leading? listOctets ∧
      ∃ crl crl', RevocationList.ofDer listOctets = .ok crl ∧
        RevocationList.ofDer listLine = .ok crl' ∧ crl.id ≠ crl'.id := by
  constructor
  · obtain ⟨c, hc⟩ : ∃ c, Certificate.ofDer .dsc signerOctets = .ok c :=
      exists_ok (by decide +kernel)
    obtain ⟨c', hc'⟩ : ∃ c', Certificate.ofDer .dsc signerLine = .ok c' :=
      exists_ok (by decide +kernel)
    obtain ⟨_, hder, hfingerprint, _⟩ := Certificate.ofDer_record hc
    obtain ⟨_, hder', hfingerprint', _⟩ := Certificate.ofDer_record hc'
    refine ⟨by decide +kernel, c, c', hc, hc', ?_, ?_, by decide +kernel⟩
    · rw [hfingerprint, hfingerprint']
      decide +kernel
    · rw [hder, hder']
      decide +kernel
  · obtain ⟨crl, hcrl⟩ : ∃ crl, RevocationList.ofDer listOctets = .ok crl :=
      exists_ok (by decide +kernel)
    obtain ⟨crl', hcrl'⟩ : ∃ crl', RevocationList.ofDer listLine = .ok crl' :=
      exists_ok (by decide +kernel)
    have hids : (RevocationList.ofDer listOctets).toOption.map (·.id) ≠
        (RevocationList.ofDer listLine).toOption.map (·.id) := by decide +kernel
    rw [hcrl, hcrl'] at hids
    refine ⟨by decide +kernel, crl, crl', hcrl, hcrl', fun heq => hids ?_⟩
    exact congrArg some heq

end Specimen

end Mrtd
