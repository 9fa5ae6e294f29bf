/-!
Octet strings: their hexadecimal text in both directions, and the number they denote when the
first octet is the most significant.
-/

namespace Mrtd

/-- An octet string. -/
abbrev Bytes := List UInt8

namespace Hex

/-- The lower-case digit of a number below sixteen. -/
def digit (n : Nat) : Char :=
  if n < 10 then Char.ofNat (48 + n) else Char.ofNat (87 + n)

/-- The upper-case digit of a number below sixteen. -/
def upperDigit (n : Nat) : Char :=
  if n < 10 then Char.ofNat (48 + n) else Char.ofNat (55 + n)

/-- The value of a digit of either case. -/
def value? (c : Char) : Option Nat :=
  let n := c.toNat
  if 48 ≤ n ∧ n ≤ 57 then some (n - 48)
  else if 97 ≤ n ∧ n ≤ 102 then some (n - 87)
  else if 65 ≤ n ∧ n ≤ 70 then some (n - 55)
  else none

/-- Two digits per octet, high half first. -/
def chars (digitOf : Nat → Char) : Bytes → List Char
  | [] => []
  | b :: rest => digitOf (b.toNat / 16) :: digitOf (b.toNat % 16) :: chars digitOf rest

/-- Reads pairs of digits of either case; refuses an odd count and any other character. -/
def octets? : List Char → Option Bytes
  | [] => some []
  | [_] => none
  | high :: low :: rest => do
      let h ← value? high
      let l ← value? low
      let tail ← octets? rest
      pure (UInt8.ofNat (16 * h + l) :: tail)

theorem value?_upperDigit : ∀ n < 16, value? (upperDigit n) = some n := by decide

end Hex

namespace Bytes

def toHex (b : Bytes) : String :=
  String.ofList (Hex.chars Hex.digit b)

def toUpperHex (b : Bytes) : String :=
  String.ofList (Hex.chars Hex.upperDigit b)

/-- Reads hexadecimal text of either case. -/
def ofHex? (s : String) : Option Bytes :=
  Hex.octets? s.toList

/-- The number whose base 256 digits are the octets, most significant first. -/
def toNat (b : Bytes) : Nat :=
  b.foldl (fun n octet => n * 256 + octet.toNat) 0

/-- The `width` low base 256 digits of a number, most significant first. -/
def ofNat (width : Nat) (n : Nat) : Bytes :=
  (List.range width).map fun i => UInt8.ofNat (n / Nat.pow 256 (width - 1 - i) % 256)

/-- Octet by octet exclusive or, as long as the shorter operand. -/
def xor (a b : Bytes) : Bytes :=
  List.zipWith (· ^^^ ·) a b

/-- Whether `b` begins with the octets `start`. -/
def beginsWith (start b : Bytes) : Bool :=
  b.take start.length == start

/-- The UTF-8 octets of a text. -/
def ofString (s : String) : Bytes :=
  s.toUTF8.toList

end Bytes

end Mrtd
