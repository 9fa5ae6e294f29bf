import Mrtd.Sod.SecurityTable
import Mrtd.Text.Blank
import Mrtd.Text.Case

/-!
Data groups: the keys that name them, and the comparison of the groups presented with the digests
that a security object lists.
-/

namespace Mrtd

namespace DataGroup

/-- What is left of a key after `DG` in any letter case. -/
def withoutLetters : List Char → List Char
  | d :: g :: rest => if d.toLower == 'd' && g.toLower == 'g' then rest else d :: g :: rest
  | s => s

/-- The number that decimal digits denote. -/
def decimal (digits : List Char) : Nat :=
  digits.foldl (fun n c => 10 * n + (c.toNat - 48)) 0

/-- The data group that a key names: its number, with or without `DG`, zeros and blanks in front. -/
def number? (key : String) : Option Nat :=
  let digits := withoutLetters (Text.trimChars key.toList)
  if !digits.isEmpty && digits.all Char.isDigit then
    let n := decimal digits
    if 1 ≤ n ∧ n ≤ Sod.maxDataGroup then some n else none
  else none

end DataGroup

/-- The verdict on one data group. -/
structure DataGroupVerdict where
  number : Nat
  valid : Bool
  /-- In hexadecimal; empty if the security object does not list the group. -/
  expected : String
  /-- In hexadecimal. -/
  actual : String
deriving DecidableEq, Repr

/-- The verdicts on the groups presented, and the groups listed but not presented. -/
structure DataGroupReport where
  algorithm : DigestAlgorithm
  /-- By number, ascending. -/
  verdicts : List DataGroupVerdict
  notPresented : List Nat
deriving DecidableEq, Repr

namespace DataGroupReport

def total (r : DataGroupReport) : Nat := r.verdicts.length

def validCount (r : DataGroupReport) : Nat := r.verdicts.countP (·.valid)

/-- The number of groups that do not. -/
def invalidCount (r : DataGroupReport) : Nat := r.total - r.validCount

/-- No group disagrees. -/
def allValid (r : DataGroupReport) : Bool := r.invalidCount == 0

/-- The numbers of the groups that disagree. -/
def invalid (r : DataGroupReport) : List Nat := (r.verdicts.filter (! ·.valid)).map (·.number)

theorem invalidCount_eq_countP (r : DataGroupReport) :
    r.invalidCount = r.verdicts.countP (! ·.valid) := by
  have h := List.length_eq_countP_add_countP (fun v : DataGroupVerdict => v.valid) (l := r.verdicts)
  simp only [invalidCount, total, validCount, h]
  simp

theorem validCount_add_invalidCount (r : DataGroupReport) :
    r.validCount + r.invalidCount = r.total := by
  have : r.validCount ≤ r.total := List.countP_le_length
  simp only [invalidCount]
  omega

@[simp] theorem length_invalid (r : DataGroupReport) : r.invalid.length = r.invalidCount := by
  rw [invalidCount_eq_countP, invalid, List.length_map, List.countP_eq_length_filter]

theorem allValid_iff (r : DataGroupReport) :
    r.allValid = true ↔ ∀ v ∈ r.verdicts, v.valid = true := by
  simp [allValid, invalidCount_eq_countP, List.countP_eq_zero]

/-- Compares one group. A group that is not listed is invalid. -/
def judge (algorithm : DigestAlgorithm) (digests : List (Nat × Bytes)) (group : Nat × Bytes) :
    DataGroupVerdict :=
  let actual := algorithm.digest group.2
  match OrderedTable.find? group.1 digests with
  | some expected => ⟨group.1, expected == actual, expected.toHex, actual.toHex⟩
  | none => ⟨group.1, false, "", actual.toHex⟩

/-- Compares the groups presented, in any order, with the digests listed. -/
def compare (algorithm : DigestAlgorithm) (digests presented : List (Nat × Bytes)) :
    DataGroupReport where
  algorithm := algorithm
  verdicts := (OrderedTable.ofList Ord.compare presented).map (judge algorithm digests)
  notPresented := (digests.map Prod.fst).filter fun n => !presented.any (·.1 == n)

end DataGroupReport

end Mrtd
