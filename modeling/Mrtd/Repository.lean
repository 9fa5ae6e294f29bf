import Mrtd.Store.Certificates
import Mrtd.Store.RevocationLists

/-!
Lookups that validation depends on. A repository may fail to answer; a store always answers, and a
store with refused lookups answers all the others.
-/

namespace Mrtd

/-- A lookup in a repository. -/
inductive Lookup where
  | byFingerprint
  | bySerialAndIssuer
  | bySubject
  | byType
  | byCountry
  | byIssuer
  | validByIssuer
  | validByCountry
deriving DecidableEq, Repr

/-- Lookups of certificates. -/
structure CertificateRepository where
  findByFingerprint : String → Except Error (Option Certificate)
  findBySerialAndIssuer : String → String → Except Error (Option Certificate)
  findBySubject : String → Except Error (List Certificate)
  findByType : CertificateType → Except Error (List Certificate)
  findByCountry : String → Except Error (List Certificate)
  findByIssuer : String → Except Error (List Certificate)

namespace CertificateRepository

/-- The certificates of a country and a role. -/
def findByCountryAndType (r : CertificateRepository) (country : String) (type : CertificateType) :
    Except Error (List Certificate) :=
  (r.findByCountry country).map fun cs => cs.filter (·.type == type)

end CertificateRepository

/-- Lookups of revocation lists; only valid ones are found. -/
structure RevocationListRepository where
  findValidByIssuer : String → Except Error (Option RevocationList)
  findValidByCountry : String → Except Error (Option RevocationList)

/-- The lookups that give no answer, each with its reason. -/
abbrev Refusals := Lookup → Option String

/-- The answer to a lookup unless it is refused. -/
def Refusals.answer {α : Type} (refused : Refusals) (lookup : Lookup) (a : α) : Except Error α :=
  match refused lookup with
  | some reason => .error (.repository reason)
  | none => .ok a

/-- Nothing is refused. -/
def Refusals.none : Refusals := fun _ => Option.none

/-- A certificate store as a repository that refuses some lookups. -/
def CertificateStore.refusing (s : CertificateStore) (refused : Refusals) :
    CertificateRepository where
  findByFingerprint fingerprint := refused.answer .byFingerprint (s.findByFingerprint? fingerprint)
  findBySerialAndIssuer serial issuer :=
    refused.answer .bySerialAndIssuer (s.findBySerialAndIssuer? serial issuer)
  findBySubject subject := refused.answer .bySubject (s.findBySubject subject)
  findByType type := refused.answer .byType (s.findByType type)
  findByCountry country := refused.answer .byCountry (s.findByCountry country)
  findByIssuer issuer := refused.answer .byIssuer (s.findByIssuer issuer)

/-- A certificate store as a repository. -/
def CertificateStore.repository (s : CertificateStore) : CertificateRepository :=
  s.refusing Refusals.none

/-- A store of revocation lists as a repository that refuses some lookups. -/
def RevocationListStore.refusing (s : RevocationListStore) (refused : Refusals) :
    RevocationListRepository where
  findValidByIssuer issuer := refused.answer .validByIssuer (s.findValidByIssuer? issuer)
  findValidByCountry country := refused.answer .validByCountry (s.findValidByCountry? country)

/-- A store of revocation lists as a repository. -/
def RevocationListStore.repository (s : RevocationListStore) : RevocationListRepository :=
  s.refusing Refusals.none

end Mrtd
