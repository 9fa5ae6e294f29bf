import Mrtd.Text.Blank
import Mrtd.Text.Case

/-!
Distinguished names in text form compare up to letter case, spacing and the choice between `,` and
`+` as separator, so that the formatting of a source never decides trust.
-/

namespace Mrtd.DistinguishedName

/-- Separates the attributes of a name. -/
def isSeparator (c : Char) : Bool :=
  c == ',' || c == '+'

/-- The words of a value joined by single spaces, in lower case. -/
def normalizeValue (value : List Char) : List Char :=
  Text.lowerChars ([' '].intercalate (Text.words value))

/-- One attribute: its type in ASCII capitals and its normalized value. A piece without `=` is only
put in lower case. -/
def normalizeAttribute (piece : List Char) : List Char :=
  match Text.cutAt (· == '=') piece with
  | some (type, value) => (Text.trimChars type).map Char.toUpper ++ '=' :: normalizeValue value
  | none => Text.lowerChars piece

/-- The nonempty attributes of a name, trimmed. -/
def attributes (name : List Char) : List (List Char) :=
  ((Text.splitOn isSeparator name).map Text.trimChars).filter (! ·.isEmpty)

/-- The normal form of a name. Proofs compare names by it and do not look inside. -/
@[irreducible] def normalize (name : String) : String :=
  String.ofList ([','].intercalate ((attributes name.toList).map normalizeAttribute))

/-- Equality of names up to formatting. -/
def same (a b : String) : Bool :=
  normalize a == normalize b

theorem same_iff {a b : String} : same a b = true ↔ normalize a = normalize b := by
  simp [same]

@[simp] theorem same_refl (a : String) : same a a = true := by
  simp [same]

theorem same_comm (a b : String) : same a b = same b a := by
  simp [same, Bool.beq_comm]

theorem same_trans {a b c : String} (hab : same a b = true) (hbc : same b c = true) :
    same a c = true :=
  same_iff.2 ((same_iff.1 hab).trans (same_iff.1 hbc))

end Mrtd.DistinguishedName
