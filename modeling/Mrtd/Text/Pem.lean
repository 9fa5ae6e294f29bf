import Mrtd.Text.Base64
import Mrtd.Text.Blank
import Mrtd.Text.Utf8

/-!
Armoured data: blocks between a `BEGIN` and an `END` line with equal labels, holding optional
headers and base64 data. Text between blocks is skipped.
-/

namespace Mrtd.Text.Pem

/-- One block: its label and the octets it holds. -/
structure Block where
  label : String
  contents : Bytes
deriving DecidableEq, Repr

/-- Why a block cannot be read. -/
inductive Fault where
  | noBlock
  | notText
  | missingLabel
  | labelMismatch (opening closing : String)
  | header (line : String)
  | data
deriving DecidableEq, Repr

/-- The wording of a fault. -/
def Fault.message : Fault → String
  | .noBlock => "malformed framing"
  | .notText => "armoured data is not UTF-8"
  | .missingLabel => "missing label"
  | .labelMismatch opening closing =>
      "mismatched labels '" ++ opening ++ "' and '" ++ closing ++ "'"
  | .header line => "malformed header '" ++ line ++ "'"
  | .data => "malformed base64 data"

/-- Searches for `marker` in one pass that never looks back: after a mismatch the search starts
again behind the octet that did not fit. Gives what stands before the marker and what follows it;
`skipped` and `matched` hold the octets passed so far in reverse order. -/
def splitAtMarker (marker : Bytes) : Bytes → Bytes → Bytes → Option (Bytes × Bytes)
  | [], skipped, rest => some (skipped.reverse.take (skipped.length - marker.length), rest)
  | _ :: _, _, [] => none
  | m :: owed, skipped, b :: rest =>
      if b = m then splitAtMarker marker owed (b :: skipped) rest
      else splitAtMarker marker marker (b :: skipped) rest

/-- What stands before the first find of `marker` and what follows it. -/
def cut (marker : String) (b : Bytes) : Option (Bytes × Bytes) :=
  let m := Bytes.ofString marker
  splitAtMarker m m [] b

/-- Space, tab, line feed and carriage return. -/
def skipBlanks (b : Bytes) : Bytes :=
  b.dropWhile fun o => o == 0x20 || o == 0x09 || o == 0x0A || o == 0x0D

/-- The parts of a block as they stand in the input. -/
structure Frame where
  opening : Bytes
  headers : Bytes
  data : Bytes
  closing : Bytes

/-- The first block and what follows it. Headers end at the first empty line. -/
def frame? (b : Bytes) : Option (Frame × Bytes) := do
  let (_, b) ← cut "-----BEGIN " b
  let (opening, b) ← cut "-----" b
  let (body, b) ← cut "-----END " (skipBlanks b)
  let (closing, b) ← cut "-----" b
  let (headers, data) := (cut "\n\n" body).getD ((cut "\r\n\r\n" body).getD ([], body))
  pure (⟨opening, headers, data, closing⟩, skipBlanks b)

/-- The lines of a text, a carriage return before the line feed dropped, no empty last line. -/
def lines (s : List Char) : List (List Char) :=
  let pieces := splitOn (· == '\n') s
  let pieces := if pieces.getLast? = some [] then pieces.dropLast else pieces
  pieces.map fun line => if line.getLast? = some '\r' then line.dropLast else line

/-- Reads the parts of one block. -/
def Frame.block (f : Frame) : Except Fault Block := do
  let text (b : Bytes) : Except Fault (List Char) :=
    match Utf8.decode? b with
    | some s => .ok s
    | none => .error .notText
  let opening ← text f.opening
  if opening.isEmpty then throw .missingLabel
  let closing ← text f.closing
  if closing.isEmpty then throw .missingLabel
  if opening ≠ closing then throw (.labelMismatch (String.ofList opening) (String.ofList closing))
  let data ← text f.data
  let some contents := Base64.decode? (data.filter (! isBlank ·)) | throw .data
  let headers ← text f.headers
  match (lines headers).find? (! ·.contains ':') with
  | some line => throw (.header (String.ofList line))
  | none => pure ⟨String.ofList opening, contents⟩

/-- The first block of the input. -/
def readFirst (b : Bytes) : Except Fault Block :=
  match frame? b with
  | some (f, _) => f.block
  | none => throw .noBlock

/-- The frames of the input in order; the first argument bounds their number. -/
def frames : Nat → Bytes → List Frame
  | 0, _ => []
  | bound + 1, b =>
      match frame? b with
      | some (f, rest) => f :: frames bound rest
      | none => []

/-- Every block of the input, or the fault of the first that cannot be read. -/
def readAll (b : Bytes) : Except Fault (List Block) :=
  (frames b.length b).mapM Frame.block

end Mrtd.Text.Pem
