/-!
White space: the characters of the Unicode property `White_Space`, trimming, and the split of a
text into the words between runs of white space.
-/

namespace Mrtd.Text

/-- The Unicode property `White_Space`. -/
def isBlank (c : Char) : Bool :=
  let n := c.toNat
  (9 ≤ n && n ≤ 13) || n == 0x20 || n == 0x85 || n == 0xA0 || n == 0x1680 ||
    (0x2000 ≤ n && n ≤ 0x200A) || n == 0x2028 || n == 0x2029 || n == 0x202F || n == 0x205F ||
    n == 0x3000

/-- Blank in ASCII: space, tab, line feed, form feed and carriage return. -/
def isAsciiBlank (octet : UInt8) : Bool :=
  octet == 0x20 || octet == 0x09 || octet == 0x0A || octet == 0x0C || octet == 0x0D

/-- The text after its leading white space. -/
def trimLeft (s : List Char) : List Char :=
  s.dropWhile isBlank

/-- The text before its trailing white space. -/
def trimRight (s : List Char) : List Char :=
  (s.reverse.dropWhile isBlank).reverse

/-- The text without white space at its ends. -/
def trimChars (s : List Char) : List Char :=
  trimRight (trimLeft s)

/-- `trimChars` on strings. -/
def trim (s : String) : String :=
  String.ofList (trimChars s.toList)

/-- The pieces between the characters that satisfy `p`, one more than there are such characters. -/
def splitOn (p : Char → Bool) : List Char → List (List Char)
  | [] => [[]]
  | c :: rest =>
      if p c then [] :: splitOn p rest
      else match splitOn p rest with
        | [] => [[c]]
        | piece :: pieces => (c :: piece) :: pieces

/-- The nonempty pieces between runs of white space. -/
def words (s : List Char) : List (List Char) :=
  (splitOn isBlank s).filter (! ·.isEmpty)

/-- The part before the first character satisfying `p` and the part after it. -/
def cutAt (p : Char → Bool) : List Char → Option (List Char × List Char)
  | [] => none
  | c :: rest =>
      if p c then some ([], rest)
      else (cutAt p rest).map fun (before, after) => (c :: before, after)

end Mrtd.Text
