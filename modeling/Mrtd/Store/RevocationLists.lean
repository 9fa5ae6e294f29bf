import Mrtd.RevocationList.Basic

/-!
The store of revocation lists. Every list ever ingested stays; of one issuer's lists at most one,
the last ingested, is flagged valid.
-/

namespace Mrtd

/-- Revocation lists in the order of their ingestion. -/
structure RevocationListStore where
  lists : List RevocationList
deriving DecidableEq, Repr

namespace RevocationListStore

def empty : RevocationListStore := ⟨[]⟩

/-- A valid list of the issuer. -/
def isValidFor (issuer : String) (crl : RevocationList) : Bool :=
  crl.isValid && DistinguishedName.same crl.issuer issuer

/-- Clears the flag of every valid list of an issuer. -/
def invalidate (s : RevocationListStore) (issuer : String) : RevocationListStore :=
  ⟨s.lists.map fun crl => if isValidFor issuer crl then { crl with isValid := false } else crl⟩

/-- One pass over some lists that clears the flag of every valid list of an issuer and counts them. -/
def clearFlags (issuer : String) : List RevocationList → Nat × List RevocationList
  | [] => (0, [])
  | crl :: rest =>
      let (changed, cleared) := clearFlags issuer rest
      if isValidFor issuer crl then (changed + 1, { crl with isValid := false } :: cleared)
      else (changed, crl :: cleared)

/-- Invalidation, with the number of lists that it changes. -/
def invalidateByIssuer (s : RevocationListStore) (issuer : String) : Nat × RevocationListStore :=
  let (changed, cleared) := clearFlags issuer s.lists
  (changed, ⟨cleared⟩)

/-- The number of valid lists of an issuer. -/
def validCount (s : RevocationListStore) (issuer : String) : Nat :=
  s.lists.countP (isValidFor issuer)

/-- Adds a list as the one valid list of its issuer. -/
def ingest (s : RevocationListStore) (crl : RevocationList) : RevocationListStore :=
  ⟨(s.invalidate crl.issuer).lists ++ [{ crl with isValid := true }]⟩

theorem clearFlags_eq (issuer : String) (lists : List RevocationList) :
    clearFlags issuer lists =
      (lists.countP (isValidFor issuer), (invalidate ⟨lists⟩ issuer).lists) := by
  induction lists with
  | nil => rfl
  | cons crl rest ih =>
      simp only [clearFlags, ih, invalidate, List.map_cons, List.countP_cons]
      cases isValidFor issuer crl <;> rfl

/-- What an invalidation changes are the valid lists of the issuer. -/
theorem invalidateByIssuer_eq (s : RevocationListStore) (issuer : String) :
    s.invalidateByIssuer issuer = (s.validCount issuer, s.invalidate issuer) := by
  rw [invalidateByIssuer, clearFlags_eq]
  rfl

@[simp] theorem length_invalidate (s : RevocationListStore) (issuer : String) :
    (s.invalidate issuer).lists.length = s.lists.length := by
  simp [invalidate]

@[simp] theorem length_ingest (s : RevocationListStore) (crl : RevocationList) :
    (s.ingest crl).lists.length = s.lists.length + 1 := by
  simp [ingest]

theorem isValidFor_congr {a b : String} (h : DistinguishedName.same a b = true) :
    isValidFor a = isValidFor b := by
  funext crl
  simp only [isValidFor, DistinguishedName.same, DistinguishedName.same_iff.1 h]

/-- A list whose flag is cleared is nobody's valid list. -/
@[simp] theorem isValidFor_cleared (issuer : String) (crl : RevocationList) :
    isValidFor issuer { crl with isValid := false } = false := rfl

@[simp] theorem validCount_invalidate_self (s : RevocationListStore) (issuer : String) :
    (s.invalidate issuer).validCount issuer = 0 := by
  simp only [validCount, invalidate, List.countP_eq_zero, List.mem_map]
  rintro _ ⟨crl, _, rfl⟩
  split
  · simp
  · assumption

@[simp] theorem validCount_ingest_self (s : RevocationListStore) (crl : RevocationList) :
    (s.ingest crl).validCount crl.issuer = 1 := by
  have h := validCount_invalidate_self s crl.issuer
  simp only [validCount] at h
  simp [ingest, validCount, List.countP_append, h, isValidFor, DistinguishedName.same]

/-- The valid list of an issuer. -/
def findValidByIssuer? (s : RevocationListStore) (issuer : String) : Option RevocationList :=
  s.lists.find? (isValidFor issuer)

/-- The latest of some lists, the last among equals. -/
def latest? : List RevocationList → Option RevocationList
  | [] => none
  | crl :: rest =>
      match latest? rest with
      | none => some crl
      | some other => some (if other.thisUpdate < crl.thisUpdate then crl else other)

/-- The latest valid list of a country, given in any letter case. -/
def findValidByCountry? (s : RevocationListStore) (country : String) : Option RevocationList :=
  latest? (s.lists.filter fun crl =>
    crl.isValid && crl.country.any fun code => Text.eqIgnoreAsciiCase code country)

end RevocationListStore

end Mrtd
