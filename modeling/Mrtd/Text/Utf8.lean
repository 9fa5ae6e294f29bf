import Mrtd.Bytes

/-!
Text in octets: UTF-8, read strictly or with a replacement character for every ill-formed piece,
and UTF-16 with the high octet first.
-/

namespace Mrtd.Text

namespace Utf8

/-- Reads `owed` continuation octets, the first of them within `low` to `high`. Gives no character
when one is missing, and the octets from the first that does not fit. -/
def continuation : Nat → Nat → Nat → Nat → Bytes → Option Char × Bytes
  | 0, _, _, value, rest => (some (Char.ofNat value), rest)
  | _ + 1, _, _, _, [] => (none, [])
  | owed + 1, low, high, value, b :: rest =>
      if low ≤ b.toNat ∧ b.toNat ≤ high then
        continuation owed 0x80 0xBF (value * 64 + (b.toNat - 0x80)) rest
      else (none, b :: rest)

/-- The character that starts with the octet `lead`, if it is well formed, and what follows. -/
def first (lead : UInt8) (rest : Bytes) : Option Char × Bytes :=
  let n := lead.toNat
  if n < 0x80 then (some (Char.ofNat n), rest)
  else if n < 0xC2 then (none, rest)
  else if n < 0xE0 then continuation 1 0x80 0xBF (n - 0xC0) rest
  else if n < 0xF0 then
    continuation 2 (if n = 0xE0 then 0xA0 else 0x80) (if n = 0xED then 0x9F else 0xBF)
      (n - 0xE0) rest
  else if n < 0xF5 then
    continuation 3 (if n = 0xF0 then 0x90 else 0x80) (if n = 0xF4 then 0x8F else 0xBF)
      (n - 0xF0) rest
  else (none, rest)

/-- Every character of an octet string, `none` standing for an ill-formed piece. The first
argument bounds the number of pieces. -/
def pieces : Nat → Bytes → List (Option Char)
  | 0, _ => []
  | _ + 1, [] => []
  | bound + 1, lead :: rest =>
      let (c, after) := first lead rest
      c :: pieces bound after

/-- The characters of well-formed UTF-8. -/
def decode? (b : Bytes) : Option (List Char) :=
  (pieces b.length b).mapM id

/-- The characters of an octet string, U+FFFD for every ill-formed piece. -/
def decodeLossy (b : Bytes) : List Char :=
  (pieces b.length b).map fun c => c.getD (Char.ofNat 0xFFFD)

end Utf8

namespace Utf16

/-- The characters of a sequence of units; refuses a surrogate without its partner. -/
def decode? : List Nat → Option (List Char)
  | [] => some []
  | u :: rest =>
      if u < 0xD800 ∨ 0xE000 ≤ u then (decode? rest).map (Char.ofNat u :: ·)
      else match rest with
        | [] => none
        | v :: after =>
            if u < 0xDC00 ∧ 0xDC00 ≤ v ∧ v < 0xE000 then
              (decode? after).map (Char.ofNat (0x10000 + (u - 0xD800) * 0x400 + (v - 0xDC00)) :: ·)
            else none

/-- Units with the high octet first. An odd last octet is a unit of its own. -/
def units : Bytes → List Nat
  | [] => []
  | [low] => [low.toNat]
  | high :: low :: rest => (high.toNat * 256 + low.toNat) :: units rest

end Utf16

/-- The text of well-formed UTF-8. -/
def ofUtf8? (b : Bytes) : Option String :=
  (Utf8.decode? b).map String.ofList

/-- The text of an octet string, with replacement characters. -/
def ofUtf8Lossy (b : Bytes) : String :=
  String.ofList (Utf8.decodeLossy b)

/-- The text of UTF-16 octets, high octet first. -/
def ofUtf16? (b : Bytes) : Option String :=
  (Utf16.decode? (Utf16.units b)).map String.ofList

end Mrtd.Text
