import Mrtd.Repository

/-!
Revocation: which list applies to a certificate, and what it says.
-/

namespace Mrtd

/-- The state of the list that was consulted. -/
inductive CrlStatus where
  /-- No list applies; nothing was checked. -/
  | notAvailable
  | current
  /-- The next update is overdue; the list is consulted all the same. -/
  | stale
deriving DecidableEq, Repr

def CrlStatus.name : CrlStatus → String
  | notAvailable => "NOT_AVAILABLE"
  | current => "CURRENT"
  | stale => "STALE"

/-- The lookup that found the list. -/
inductive CrlSource where
  | issuer
  | country
deriving DecidableEq, Repr

def CrlSource.name : CrlSource → String
  | issuer => "ISSUER"
  | country => "COUNTRY"

/-- The list consulted and, for a revoked certificate, its entry. -/
structure RevocationDetails where
  serial : String
  crlId : String
  crlIssuer : String
  source : CrlSource
  thisUpdate : Timestamp
  nextUpdate : Option Timestamp
  date : Option Timestamp
  reason : Option RevocationReason
deriving DecidableEq, Repr

/-- The outcome of a check. -/
structure RevocationCheck where
  revoked : Bool
  /-- A list was found and consulted. -/
  checked : Bool
  status : CrlStatus
  details : Option RevocationDetails
deriving DecidableEq, Repr

namespace RevocationCheck

/-- No list applies, which is no revocation. -/
def notChecked : RevocationCheck := ⟨false, false, .notAvailable, none⟩

/-- What a list says about a certificate. -/
def ofList (c : Certificate) (now : Timestamp) (crl : RevocationList) (source : CrlSource) :
    RevocationCheck :=
  let entry := crl.findEntry? c.serial
  { revoked := entry.isSome
    checked := true
    status := if crl.isStale now then .stale else .current
    details := some {
      serial := c.serial
      crlId := crl.id
      crlIssuer := crl.issuer
      source := source
      thisUpdate := crl.thisUpdate
      nextUpdate := crl.nextUpdate
      date := entry.map (·.date)
      reason := entry.bind (·.reason) } }

end RevocationCheck

/-- What a check depends on. -/
structure RevocationChecker where
  lists : RevocationListRepository
  countryFallback : Bool

namespace RevocationChecker

/-- The list that applies: the issuer's own, or else, if that is allowed, the country's. -/
def find (r : RevocationChecker) (c : Certificate) :
    Except Error (Option (RevocationList × CrlSource)) := do
  match ← r.lists.findValidByIssuer c.issuer with
  | some crl => pure (some (crl, .issuer))
  | none =>
      match r.countryFallback, c.country with
      | true, some country =>
          pure ((← r.lists.findValidByCountry country).map fun crl => (crl, .country))
      | _, _ => pure none

/-- Checks a certificate at an instant. -/
def check (r : RevocationChecker) (c : Certificate) (now : Timestamp) :
    Except Error RevocationCheck := do
  match ← r.find c with
  | some (crl, source) => pure (.ofList c now crl source)
  | none => pure .notChecked

end RevocationChecker

end Mrtd
