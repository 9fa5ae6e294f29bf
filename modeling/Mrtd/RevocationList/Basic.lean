import Mrtd.DistinguishedName
import Mrtd.OrderedTable
import Mrtd.SerialNumber
import Mrtd.Timestamp

/-!
Certificate revocation lists as records: entries by serial number, and the window in which the list
is current.
-/

namespace Mrtd

/-- Why a certificate was revoked. -/
inductive RevocationReason where
  | unspecified
  | keyCompromise
  | caCompromise
  | affiliationChanged
  | superseded
  | cessationOfOperation
  | certificateHold
  | removeFromCrl
  | privilegeWithdrawn
  | aaCompromise
deriving DecidableEq, Repr

namespace RevocationReason

/-- The reason with a registered number; unassigned numbers say nothing in particular. -/
def ofCode : Nat → RevocationReason
  | 1 => keyCompromise
  | 2 => caCompromise
  | 3 => affiliationChanged
  | 4 => superseded
  | 5 => cessationOfOperation
  | 6 => certificateHold
  | 8 => removeFromCrl
  | 9 => privilegeWithdrawn
  | 10 => aaCompromise
  | _ => unspecified

def display : RevocationReason → String
  | unspecified => "unspecified"
  | keyCompromise => "keyCompromise"
  | caCompromise => "cACompromise"
  | affiliationChanged => "affiliationChanged"
  | superseded => "superseded"
  | cessationOfOperation => "cessationOfOperation"
  | certificateHold => "certificateHold"
  | removeFromCrl => "removeFromCRL"
  | privilegeWithdrawn => "privilegeWithdrawn"
  | aaCompromise => "aACompromise"

def name : RevocationReason → String
  | unspecified => "UNSPECIFIED"
  | keyCompromise => "KEY_COMPROMISE"
  | caCompromise => "CA_COMPROMISE"
  | affiliationChanged => "AFFILIATION_CHANGED"
  | superseded => "SUPERSEDED"
  | cessationOfOperation => "CESSATION_OF_OPERATION"
  | certificateHold => "CERTIFICATE_HOLD"
  | removeFromCrl => "REMOVE_FROM_CRL"
  | privilegeWithdrawn => "PRIVILEGE_WITHDRAWN"
  | aaCompromise => "AA_COMPROMISE"

end RevocationReason

/-- One revoked certificate. -/
structure RevocationEntry where
  /-- In normal form. -/
  serial : String
  date : Timestamp
  reason : Option RevocationReason
deriving DecidableEq, Repr

namespace RevocationEntry

/-- An entry for a serial number in any spelling. -/
def ofSerial (serial : String) (date : Timestamp) (reason : Option RevocationReason) :
    RevocationEntry :=
  ⟨SerialNumber.normalize serial, date, reason⟩

end RevocationEntry

/-- A revocation list. `isValid` belongs to the store that holds it. -/
structure RevocationList where
  id : String
  issuer : String
  /-- In capitals. -/
  country : Option String
  thisUpdate : Timestamp
  nextUpdate : Option Timestamp
  /-- By serial number, ascending. -/
  entries : List (String × RevocationEntry)
  isValid : Bool
deriving DecidableEq, Repr

namespace RevocationList

/-- A list of the given entries; of two with one serial number the later counts. -/
def ofEntries (id issuer : String) (country : Option String) (thisUpdate : Timestamp)
    (nextUpdate : Option Timestamp) (entries : List RevocationEntry) : RevocationList where
  id := id
  issuer := issuer
  country := country.map Text.asciiUpper
  thisUpdate := thisUpdate
  nextUpdate := nextUpdate
  entries := OrderedTable.ofList compare (entries.map fun e => (e.serial, e))
  isValid := true

/-- The entry of a serial number in any spelling. -/
def findEntry? (crl : RevocationList) (serial : String) : Option RevocationEntry :=
  OrderedTable.find? (SerialNumber.normalize serial) crl.entries

/-- The next update is overdue. A list that names none never goes stale. -/
def isStale (crl : RevocationList) (now : Timestamp) : Bool :=
  crl.nextUpdate.any fun next => decide (next < now)

end RevocationList

end Mrtd
