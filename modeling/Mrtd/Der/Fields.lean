import Mrtd.Der.Value

/-!
The fields of constructed elements. Every field must be used up; only elements with a context tag
may be passed over, where an optional one with a higher number is looked for.
-/

namespace Mrtd.Der

/-- Takes fields from the front of a list of elements, or fails. -/
abbrev Fields := StateT (List Element) Option

namespace Fields

variable {α : Type}

/-- The next field. -/
def next : Fields Element
  | e :: rest => some (e, rest)
  | [] => none

/-- The next field, if there is one. -/
def next? : Fields (Option Element)
  | e :: rest => some (some e, rest)
  | [] => some (none, [])

/-- The value of the next field. -/
def read (f : Element → Option α) : Fields α := do
  let e ← next
  match f e with
  | some a => pure a
  | none => fun _ => none

/-- The value of the next field if that has a tag of a certain kind. -/
def readIf (accepts : UInt8 → Bool) (f : Element → Option α) : Fields (Option α)
  | e :: rest =>
      if accepts e.tag then (f e).map fun a => (some a, rest) else some (none, e :: rest)
  | [] => some (none, [])

/-- The field with a context number. Fields with lower context numbers in front of it are passed
over. -/
def contextField (number : Nat) : Fields (Option Element)
  | [] => some (none, [])
  | e :: rest =>
      let tag := e.tag.toNat
      if 0x80 ≤ tag ∧ tag < 0xC0 ∧ tag % 32 ≤ number then
        if tag % 32 = number then some (some e, rest) else contextField number rest
      else some (none, e :: rest)

/-- The value of the field with a context number, which may be missing. -/
def readContext (number : Nat) (f : Element → Option α) : Fields (Option α) := do
  match ← contextField number with
  | none => pure none
  | some e =>
      match f e with
      | some a => pure (some a)
      | none => fun _ => none

/-- The value of fields that are all there is. -/
def whole? (fields : Fields α) (content : Bytes) : Option α := do
  match fields (← elements? content) with
  | some (a, []) => some a
  | _ => none

end Fields

variable {α : Type}

/-- The fields of an element with a tag. -/
def fieldsOf? (tag : UInt8) (fields : Fields α) (e : Element) : Option α :=
  if e.tag = tag then fields.whole? e.content else none

/-- The members of an element with a tag. -/
def membersOf? (tag : UInt8) (member : Element → Option α) (e : Element) : Option (List α) :=
  if e.tag = tag then do (← elements? e.content).mapM member else none

/-- The value of the one element inside another. -/
def inside? (tag : UInt8) (f : Element → Option α) (e : Element) : Option α :=
  fieldsOf? tag (Fields.read f) e

/-- An element that contains others. -/
def construct (tag : UInt8) (es : List Element) : Element := ⟨tag, encodeAll es⟩

end Mrtd.Der
