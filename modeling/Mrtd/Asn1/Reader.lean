import Mrtd.Asn1.Element
import Mrtd.Asn1.ObjectIdentifier
import Mrtd.Timestamp

/-!
Readers for the values inside certificates and revocation lists. A reader takes octets from the
front of its input; what a SEQUENCE or SET holds beyond the fields asked for is passed over.
-/

namespace Mrtd.Asn1

/-- How far the failure of a reader goes. -/
inductive Halt where
  /-- The value is not there. Where it is optional or repeated, reading goes on without it. -/
  | absent
  /-- Nothing that contains this place can be read. -/
  | spoiled
deriving DecidableEq, Repr

/-- Takes a value from the front of an octet string, or fails. -/
abbrev Reader := StateT Bytes (Except Halt)

namespace Reader

def fail {α : Type} : Reader α := fun _ => .error .absent

/-- A reader by what it takes, which may be nothing. -/
def ofOption {α : Type} (read : Bytes → Option (α × Bytes)) : Reader α := fun b =>
  match read b with
  | some result => .ok result
  | none => .error .absent

/-- The value at the front of an octet string, however reading fails. -/
def first? {α : Type} (r : Reader α) (b : Bytes) : Option α :=
  match r b with
  | .ok (a, _) => some a
  | .error _ => none

/-- The value if there is one. -/
def expect {α : Type} : Option α → Reader α
  | some a => pure a
  | none => fail

def element : Reader Element := ofOption readElement

/-- Goes on only if the condition holds. -/
def ensure (condition : Bool) : Reader Unit :=
  if condition then pure () else fail

def remaining : Reader Bytes := get

/-- A value that may be absent. -/
def optional {α : Type} (r : Reader α) : Reader (Option α) := fun b =>
  match r b with
  | .ok (a, rest) => .ok (some a, rest)
  | .error .absent => .ok (none, b)
  | .error .spoiled => .error .spoiled

/-- Runs a reader on octets of its own; what it leaves is passed over. -/
def within {α : Type} (r : Reader α) (content : Bytes) : Reader α := fun rest =>
  (r content).map fun (a, _) => (a, rest)

/-- Values up to the first absent one; the first argument bounds their number. -/
def many {α : Type} (r : Reader α) : Nat → Reader (List α)
  | 0 => pure []
  | bound + 1 => do
      match ← optional r with
      | some a => pure (a :: (← many r bound))
      | none => pure []

/-- Every value that stands at the front of the input, one after the other. -/
def all {α : Type} (r : Reader α) : Reader (List α) := fun b =>
  many r b.length b

/-- The fields of a constructed element with the given universal tag number. A primitive element in
its place spoils whatever contains it. -/
def fieldsOf {α : Type} (number : Nat) (r : Reader α) : Reader α := do
  let e ← element
  if !e.header.constructed then throw .spoiled
  ensure (e.number == number)
  within r e.content

/-- The fields of a SEQUENCE. -/
def sequence {α : Type} (r : Reader α) : Reader α := fieldsOf TagNumber.sequence r

/-- The members of a SET. -/
def set {α : Type} (r : Reader α) : Reader α := fieldsOf TagNumber.set r

/-- The primitive element with the given universal tag number. -/
def primitive (number : Nat) : Reader Bytes := do
  let e ← element
  ensure (e.number == number && !e.header.constructed)
  pure e.content

/-- Any primitive element is taken for an object identifier, whatever its tag. -/
def objectIdentifier : Reader ObjectIdentifier := do
  let e ← element
  ensure (!e.header.constructed)
  pure ⟨e.content⟩

/-- Contents of an INTEGER that spend no leading octet on repeating the sign. -/
def isMinimalInteger : Bytes → Bool
  | [] => false
  | [_] => true
  | a :: b :: _ => !(a == 0 && b.toNat < 128) && !(a == 0xFF && 128 ≤ b.toNat)

/-- The value of INTEGER contents that are not negative and fit in 32 bits. -/
def unsigned32? (content : Bytes) : Option Nat :=
  match content with
  | [] => none
  | a :: _ =>
      let n := Bytes.toNat content
      if a.toNat < 128 ∧ n < Nat.pow 2 32 then some n else none

/-- An INTEGER of at most 32 bits. -/
def unsigned32 : Reader Nat := do
  let content ← primitive TagNumber.integer
  ensure (isMinimalInteger content)
  expect (unsigned32? content)

/-- The contents of a BIT STRING after the count of unused bits. Unused bits must be zero. -/
def bits? : Bytes → Option Bytes
  | [] => none
  | [unused] => if unused = 0 then some [] else none
  | unused :: data =>
      let last := (data.getLastD 0).toNat
      if unused.toNat ≤ 8 ∧ last % Nat.pow 2 unused.toNat = 0 then some data else none

/-- A BIT STRING. -/
def bitString : Reader Bytes := do
  expect (bits? (← primitive TagNumber.bitString))

/-- An algorithm identifier: its name, and the element that holds its parameters. -/
structure Algorithm where
  oid : ObjectIdentifier
  parameters : Option Element
deriving DecidableEq, Repr

/-- An AlgorithmIdentifier. -/
def algorithm : Reader Algorithm := sequence do
  let oid ← objectIdentifier
  if (← remaining).isEmpty then pure ⟨oid, none⟩
  else
    let parameters ← element
    pure ⟨oid, some parameters⟩

/-- A decimal digit. -/
def digit? (b : UInt8) : Option Nat :=
  if 48 ≤ b.toNat ∧ b.toNat ≤ 57 then some (b.toNat - 48) else none

/-- Two decimal digits. -/
def twoDigits : Reader Nat := ofOption fun
  | a :: b :: rest => do some ((← digit? a) * 10 + (← digit? b), rest)
  | _ => none

/-- The hours and minutes of a zone, and nothing else. -/
def zoneDigits (digits : Bytes) : Option (Nat × Nat) :=
  match (do pure (← twoDigits, ← twoDigits) : Reader (Nat × Nat)) digits with
  | .ok ((hours, minutes), []) => if hours ≤ 25 ∧ minutes < 60 then some (hours, minutes) else none
  | _ => none

/-- The offset from UTC in seconds that ends a time: `Z`, or a sign with hours and minutes. The sign
goes with the hours, so an offset of less than one hour counts forward. -/
def zoneOffset : Bytes → Option Int
  | [z] => if z == 90 then some 0 else none
  | sign :: digits => do
      let (hours, minutes) ← zoneDigits digits
      let seconds : Int := hours * 3600 + minutes * 60
      if sign == 43 then some seconds
      else if sign == 45 then some (if hours = 0 then seconds else -seconds)
      else none
  | [] => none

/-- Seconds may be left out only in front of a lone last octet. -/
def optionalSeconds : Reader Nat := do
  if (← remaining).length < 2 then pure 0 else twoDigits

/-- The contents of a UTCTime. Years from fifty on are of the twentieth century. -/
def utcTime? (content : Bytes) : Option Timestamp := do
  let ((year, month, day, hour, minute, second), zone) ← (do
    let year ← twoDigits
    let month ← twoDigits
    let day ← twoDigits
    let hour ← twoDigits
    let minute ← twoDigits
    let second ← optionalSeconds
    pure ((year, month, day, hour, minute, second), ← remaining) : Reader _).first? content
  let fullYear := if 50 ≤ year then 1900 + year else 2000 + year
  let t ← Timestamp.ofFields? fullYear month day hour minute second
  let offset ← zoneOffset zone
  some (t - offset)

/-- A decimal fraction of at most three digits, which is dropped. -/
def skipFraction : Bytes → Bytes
  | 46 :: rest =>
      let digits := rest.takeWhile fun b => (digit? b).isSome
      if digits.length ≤ 3 then rest.drop digits.length else 46 :: rest
  | b => b

/-- The contents of a GeneralizedTime, which must end in `Z`. -/
def generalizedTime? (content : Bytes) : Option Timestamp := do
  let ((century, year, month, day, hour, minute, second), zone) ← (do
    let century ← twoDigits
    let year ← twoDigits
    let month ← twoDigits
    let day ← twoDigits
    let hour ← twoDigits
    let minute ← twoDigits
    let second ← optionalSeconds
    pure ((century, year, month, day, hour, minute, second), ← remaining) : Reader _).first? content
  let t ← Timestamp.ofFields? (century * 100 + year) month day hour minute second
  if skipFraction zone = [90] then some t else none

/-- A time in either form. -/
def time : Reader Timestamp := do
  let e ← element
  expect (if e.number = TagNumber.utcTime then utcTime? e.content
    else if e.number = TagNumber.generalizedTime then generalizedTime? e.content else none)

end Reader

end Mrtd.Asn1
