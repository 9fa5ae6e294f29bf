/-!
Values of configuration and report formats, and how settings are taken out of them.
-/

namespace Mrtd.Format

/-- A value. Numbers other than integers, and dates, are known to be there and not kept. -/
inductive Value where
  | null
  | boolean (b : Bool)
  | integer (n : Int)
  | real
  | moment
  | text (s : String)
  | array (items : List Value)
  | table (fields : List (String × Value))
deriving Repr

namespace Value

def boolean? : Value → Option Bool
  | boolean b => some b
  | _ => none

/-- A number of at most 64 bits that is not negative. -/
def size? : Value → Option Nat
  | integer n => if 0 ≤ n ∧ n < 0x10000000000000000 then some n.toNat else none
  | _ => none

def text? : Value → Option String
  | text s => some s
  | _ => none

/-- The value of a field, given the reader of its values: the default if the field is missing, and
no answer if the value is unreadable. -/
def readOr {α : Type} (read : Value → Option α) (default : α) : Option Value → Option α
  | none => some default
  | some v => read v

/-- Named fields taken from a value. A table gives each by its name, and the names asked for must
not occur twice; an array gives them by position, and must hold no more of them if `exact` holds. -/
def fields? (exact : Bool) (names : List String) : Value → Option (String → Option Value)
  | table fields =>
      if names.all fun name => (fields.filter (·.1 == name)).length ≤ 1 then
        some fun name => fields.lookup name
      else none
  | array items =>
      if exact && names.length < items.length then none
      else some fun name => (names.zip items).lookup name
  | _ => none

end Value

end Mrtd.Format
