/-!
Scanners: functions that take something from the front of a text, or fail.
-/

namespace Mrtd.Format

/-- Takes a value from the front of a text, or fails. -/
abbrev Scan := StateT (List Char) Option

namespace Scan

def fail {α : Type} : Scan α := fun _ => none

/-- Goes on only if the condition holds. -/
def ensure (condition : Bool) : Scan Unit :=
  if condition then pure () else fail

/-- The next character, which stays. -/
def peek : Scan (Option Char) := fun s => some (s.head?, s)

def next : Scan Char
  | [] => none
  | c :: rest => some (c, rest)

/-- The given characters. -/
def literal (text : List Char) : Scan Unit := fun s =>
  if s.take text.length = text then some ((), s.drop text.length) else none

/-- The characters up to the first that does not satisfy `p`. -/
def takeWhile (p : Char → Bool) : Scan (List Char) := fun s =>
  some (s.takeWhile p, s.dropWhile p)

/-- Drops characters as long as they satisfy `p`. -/
def skipWhile (p : Char → Bool) : Scan Unit := fun s => some ((), s.dropWhile p)

/-- The first scanner that succeeds. -/
def either {α : Type} (a b : Scan α) : Scan α := fun s =>
  match a s with
  | some r => some r
  | none => b s

/-- The scanner succeeds or takes nothing. -/
def optional {α : Type} (a : Scan α) : Scan (Option α) := fun s =>
  match a s with
  | some (x, rest) => some (some x, rest)
  | none => some (none, s)

/-- The text has been read. -/
def finish : Scan Unit
  | [] => some ((), [])
  | _ => none

/-- Runs a scanner over a whole text. -/
def whole? {α : Type} (a : Scan α) (s : List Char) : Option α :=
  match a s with
  | some (x, []) => some x
  | _ => none

end Scan

end Mrtd.Format
