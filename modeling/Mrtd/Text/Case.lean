import Mrtd.Text.CaseTable

/-!
Letter case. ASCII case for keywords and identifiers, and the full lower-case form of a text, in
which a capital sigma becomes final sigma exactly at the end of a word.
-/

namespace Mrtd.Text

/-- ASCII letters in capitals, all else unchanged. -/
def asciiUpper (s : String) : String :=
  String.ofList (s.toList.map Char.toUpper)

/-- ASCII letters in small form, all else unchanged. -/
def asciiLower (s : String) : String :=
  String.ofList (s.toList.map Char.toLower)

/-- Equality up to the case of ASCII letters. -/
def eqIgnoreAsciiCase (a b : String) : Bool :=
  asciiLower a == asciiLower b

/-- Membership of a code point in a list of ranges. -/
def inRanges (ranges : List (Nat × Nat)) (n : Nat) : Bool :=
  ranges.any fun (low, high) => low ≤ n && n ≤ high

/-- ASCII members of `Case_Ignorable` and `Cased` are listed in the tables as well. -/
def isCaseIgnorable (c : Char) : Bool :=
  inRanges caseIgnorableRanges c.toNat

/-- The property `Cased`, used only where `isCaseIgnorable` fails. -/
def isCased (c : Char) : Bool :=
  inRanges casedRanges c.toNat

/-- The small form of one character. The dotted capital I is the only one of two characters. -/
def lowerChar (c : Char) : List Char :=
  let n := c.toNat
  if n < 0x80 then [c.toLower]
  else if n == 0x130 then ['i', Char.ofNat 0x307]
  else
    match lowerRanges.find? fun (low, high, step, _) =>
        low ≤ n && n ≤ high && (n - low) % step == 0 with
    | some (_, _, _, distance) => [Char.ofNat (Int.toNat (n + distance))]
    | none => [c]

/-- The nearest character that is not case ignorable is a letter with case. -/
def reachesCased (s : List Char) : Bool :=
  match s.dropWhile isCaseIgnorable with
  | [] => false
  | c :: _ => isCased c

/-- Lower-case form, given the characters before the text in reverse order. A capital sigma is
final when a letter precedes it and none follows. -/
def lowerAfter (before : List Char) : List Char → List Char
  | [] => []
  | c :: rest =>
      (if c.toNat == 0x3A3 then
        [Char.ofNat (if reachesCased before && !reachesCased rest then 0x3C2 else 0x3C3)]
      else lowerChar c) ++ lowerAfter (c :: before) rest

/-- The lower-case form of a text. -/
def lowerChars (s : List Char) : List Char :=
  lowerAfter [] s

/-- `lowerChars` on strings. -/
def lower (s : String) : String :=
  String.ofList (lowerChars s.toList)

end Mrtd.Text
