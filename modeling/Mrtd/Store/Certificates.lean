import Mrtd.Certificate.Basic
import Mrtd.SerialNumber

/-!
The certificate store: certificates in the order of their insertion, no two with one fingerprint.
-/

namespace Mrtd

/-- Certificates in insertion order. -/
structure CertificateStore where
  certificates : List Certificate
deriving DecidableEq, Repr

namespace CertificateStore

def empty : CertificateStore := ⟨[]⟩

/-- A certificate of this fingerprint is held. -/
def holds (s : CertificateStore) (fingerprint : String) : Bool :=
  s.certificates.any (·.fingerprint == fingerprint)

/-- Adds a certificate at the end, unless its fingerprint is there already. -/
def insert (s : CertificateStore) (c : Certificate) : CertificateStore :=
  if s.holds c.fingerprint then s else ⟨s.certificates ++ [c]⟩

/-- Insertion with its answer: whether the certificate was added. -/
def add (s : CertificateStore) (c : Certificate) : Bool × CertificateStore :=
  if s.holds c.fingerprint then (false, s) else (true, ⟨s.certificates ++ [c]⟩)

/-- The store that results from inserting certificates one after the other. -/
def ofList (cs : List Certificate) : CertificateStore :=
  cs.foldl insert empty

@[simp] theorem holds_eq_true {s : CertificateStore} {fingerprint : String} :
    s.holds fingerprint = true ↔ ∃ c ∈ s.certificates, c.fingerprint = fingerprint := by
  simp [holds]

theorem insert_of_holds {s : CertificateStore} {c : Certificate} (h : s.holds c.fingerprint = true) :
    s.insert c = s := if_pos h

theorem add_eq (s : CertificateStore) (c : Certificate) :
    s.add c = (!s.holds c.fingerprint, s.insert c) := by
  unfold add insert
  cases s.holds c.fingerprint <;> rfl

theorem certificates_insert {s : CertificateStore} {c : Certificate}
    (h : s.holds c.fingerprint = false) : (s.insert c).certificates = s.certificates ++ [c] := by
  simp [insert, h]

/-- A certificate of the fingerprint is held once the certificate was inserted. -/
theorem holds_insert_self (s : CertificateStore) (c : Certificate) :
    (s.insert c).holds c.fingerprint = true := by
  unfold insert
  split
  · assumption
  · simp

theorem nodup_insert {s : CertificateStore} (c : Certificate)
    (h : (s.certificates.map (·.fingerprint)).Nodup) :
    ((s.insert c).certificates.map (·.fingerprint)).Nodup := by
  cases hholds : s.holds c.fingerprint with
  | true => rwa [insert_of_holds hholds]
  | false =>
      rw [certificates_insert hholds, List.map_append, List.nodup_append]
      refine ⟨h, by simp, ?_⟩
      intro a ha b hb hab
      have hfree := Bool.eq_false_iff.1 hholds
      obtain ⟨other, hother, rfl⟩ := List.mem_map.1 ha
      exact hfree (holds_eq_true.2 ⟨other, hother, by simpa [hab] using hb⟩)

/-- No two certificates of a store have one fingerprint. -/
theorem nodup_ofList (cs : List Certificate) :
    ((ofList cs).certificates.map (·.fingerprint)).Nodup :=
  List.foldlRecOn (motive := fun s => (s.certificates.map (·.fingerprint)).Nodup) cs insert
    List.nodup_nil fun _ h c _ => nodup_insert c h

theorem mem_insert_imp {s : CertificateStore} {c new : Certificate}
    (h : c ∈ (s.insert new).certificates) : c ∈ s.certificates ∨ c = new := by
  unfold insert at h
  split at h
  · exact .inl h
  · simpa using h

theorem subset_insert {s : CertificateStore} (new : Certificate) :
    s.certificates ⊆ (s.insert new).certificates := by
  unfold insert
  split
  · exact List.Subset.refl _
  · exact List.subset_append_left ..

/-- A store holds nothing but what was inserted. -/
theorem mem_of_mem_ofList {cs : List Certificate} {c : Certificate}
    (h : c ∈ (ofList cs).certificates) : c ∈ cs := by
  revert h
  refine List.foldlRecOn (motive := fun s => c ∈ s.certificates → c ∈ cs) cs insert ?_ ?_
  · intro hheld
    cases hheld
  · intro s hs new hnew hheld
    rcases mem_insert_imp hheld with hheld | rfl
    · exact hs hheld
    · exact hnew

/-- Of every fingerprint that was inserted, a certificate is held. -/
theorem holds_ofList {cs : List Certificate} {c : Certificate} (h : c ∈ cs) :
    (ofList cs).holds c.fingerprint = true := by
  suffices hfold : ∀ s : CertificateStore, s.holds c.fingerprint = true ∨ c ∈ cs →
      (cs.foldl insert s).holds c.fingerprint = true from hfold empty (.inr h)
  clear h
  induction cs with
  | nil => simp
  | cons first rest ih =>
      intro s hs
      apply ih
      rcases hs with hheld | hmem
      · obtain ⟨held, hmem, heq⟩ := holds_eq_true.1 hheld
        exact .inl (holds_eq_true.2 ⟨held, subset_insert first hmem, heq⟩)
      · rcases List.mem_cons.1 hmem with rfl | hrest
        · exact .inl (holds_insert_self s c)
        · exact .inr hrest

/-- What shares its fingerprint with nothing else that was inserted is held. -/
theorem mem_ofList_of_unique {cs : List Certificate} {c : Certificate} (h : c ∈ cs)
    (hunique : ∀ other ∈ cs, other.fingerprint = c.fingerprint → other = c) :
    c ∈ (ofList cs).certificates := by
  obtain ⟨held, hheld, heq⟩ := holds_eq_true.1 (holds_ofList h)
  rwa [← hunique held (mem_of_mem_ofList hheld) heq]

def size (s : CertificateStore) : Nat :=
  s.certificates.length

/-- The certificate of a fingerprint in any letter case. -/
def findByFingerprint? (s : CertificateStore) (fingerprint : String) : Option Certificate :=
  s.certificates.find? fun c => Text.eqIgnoreAsciiCase c.fingerprint fingerprint

/-- The first certificate with a serial number, in any spelling, under an issuer. -/
def findBySerialAndIssuer? (s : CertificateStore) (serial issuer : String) : Option Certificate :=
  s.certificates.find? fun c =>
    c.serial == SerialNumber.normalize serial && DistinguishedName.same c.issuer issuer

def findBySubject (s : CertificateStore) (subject : String) : List Certificate :=
  s.certificates.filter fun c => DistinguishedName.same c.subject subject

def findByType (s : CertificateStore) (type : CertificateType) : List Certificate :=
  s.certificates.filter (·.type == type)

/-- The certificates of a country, given in any letter case. -/
def findByCountry (s : CertificateStore) (country : String) : List Certificate :=
  s.certificates.filter fun c => c.country.any fun code => Text.eqIgnoreAsciiCase code country

def findByIssuer (s : CertificateStore) (issuer : String) : List Certificate :=
  s.certificates.filter fun c => DistinguishedName.same c.issuer issuer

end CertificateStore

end Mrtd
