import Mrtd.Bytes
import Mrtd.Text.Blank
import Mrtd.Text.Case
import Mrtd.Text.WidthTable

/-!
How texts are displayed: the columns they take up, and a quoted form in which everything is visible.
-/

namespace Mrtd.Text

/-- A control character. -/
def isControl (c : Char) : Bool :=
  c.toNat < 0x20 || (0x7F ≤ c.toNat && c.toNat < 0xA0)

/-- A character that adds to the one in front of it, or is not shown at all. -/
def isMark (c : Char) : Bool :=
  0x300 ≤ c.toNat && inRanges markRanges c.toNat

/-- A vowel or final consonant that joins the Hangul syllable in front of it. -/
def joinsSyllable (c : Char) : Bool :=
  inRanges [(0x115F, 0x11FF), (0x3164, 0x3164), (0xD7B0, 0xD7FB), (0xFFA0, 0xFFA0)] c.toNat

/-- The columns of a character. -/
def columnsOf (c : Char) : Nat :=
  if c.toNat < 0x7F then (if isControl c then 0 else 1)
  else if isControl c || isMark c || joinsSyllable c then 0
  else if inRanges wideRanges c.toNat then 2
  else 1

/-- The columns of a text. -/
def columns (s : String) : Nat :=
  s.toList.foldl (fun n c => n + columnsOf c) 0

/-- A text followed by blanks up to a number of columns. -/
def padTo (width : Nat) (s : String) : String :=
  s ++ String.ofList (List.replicate (width - columns s) ' ')

/-- A character that would not be seen: a control or a mark, a blank other than the space, one for
private use or none at all. -/
def isUnseen (c : Char) : Bool :=
  let n := c.toNat
  isControl c || (isBlank c && c != ' ') || n == 0xAD || isMark c ||
    inRanges [(0x600, 0x605), (0x6DD, 0x6DD), (0x70F, 0x70F), (0x890, 0x891), (0x8E2, 0x8E2),
      (0xE000, 0xF8FF), (0x110BD, 0x110BD), (0x110CD, 0x110CD), (0xE0000, 0x10FFFF)] n ||
    n % 0x10000 ≥ 0xFFFE

/-- The digits of a code point, without zeros in front. -/
def codePoint (c : Char) : List Char :=
  match (Nat.toDigits 16 c.toNat) with
  | [] => ['0']
  | ds => ds

/-- A character inside visible quotes. -/
def visibleChar (c : Char) : List Char :=
  match c with
  | '"' => ['\\', '"']
  | '\\' => ['\\', '\\']
  | '\n' => ['\\', 'n']
  | '\r' => ['\\', 'r']
  | '\t' => ['\\', 't']
  | c =>
      if c.toNat = 0 then ['\\', '0']
      else if isUnseen c then
        ['\\', 'u', Char.ofNat 0x7B] ++ codePoint c ++ [Char.ofNat 0x7D]
      else [c]

/-- A text in quotes, with an escape for each character that would not be seen. -/
def visible (s : String) : String :=
  String.ofList ('"' :: s.toList.flatMap visibleChar ++ ['"'])

end Mrtd.Text
