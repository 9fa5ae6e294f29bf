import Mrtd.Bytes
import Mrtd.Format.Scan
import Mrtd.Format.Value

/-!
JSON: a reader for settings and a printer for reports, two blanks for each level.
-/

namespace Mrtd.Format.Json

/-- Blanks between tokens. -/
def isBlank (c : Char) : Bool :=
  c == ' ' || c == '\t' || c == '\n' || c == '\r'

/-- Drops blanks. -/
def blanks : Scan Unit := Scan.skipWhile isBlank

/-- Four hexadecimal digits. -/
def fourDigits : Scan Nat
  | a :: b :: c :: d :: rest => do
      some (((((← Hex.value? a) * 16 + (← Hex.value? b)) * 16 + (← Hex.value? c)) * 16 +
        (← Hex.value? d)), rest)
  | _ => none

/-- The character of an escape by number, two of which may make one character. A surrogate without
its partner stands for none. -/
def numbered : Scan (Option Char) := do
  let u ← fourDigits
  if u < 0xD800 ∨ 0xE000 ≤ u then pure (some (Char.ofNat u))
  else if u < 0xDC00 then
    let second ← Scan.optional do
      Scan.literal ['\\', 'u']
      let v ← fourDigits
      Scan.ensure (decide (0xDC00 ≤ v ∧ v < 0xE000))
      pure v
    pure (second.map fun v => Char.ofNat (0x10000 + (u - 0xD800) * 0x400 + (v - 0xDC00)))
  else pure none

/-- The character of an escape, after the backslash. -/
def escaped : Scan (Option Char) := do
  match ← Scan.next with
  | '"' => pure (some '"')
  | '\\' => pure (some '\\')
  | '/' => pure (some '/')
  | 'b' => pure (some (Char.ofNat 8))
  | 'f' => pure (some (Char.ofNat 12))
  | 'n' => pure (some '\n')
  | 'r' => pure (some '\r')
  | 't' => pure (some '\t')
  | 'u' => numbered
  | _ => Scan.fail

/-- The characters of a string after the opening quote; the first argument bounds their number. -/
def stringRest : Nat → Scan (List (Option Char))
  | 0 => Scan.fail
  | bound + 1 => do
      match ← Scan.next with
      | '"' => pure []
      | '\\' =>
          let c ← escaped
          pure (c :: (← stringRest bound))
      | c =>
          Scan.ensure (decide (0x20 ≤ c.toNat))
          pure (some c :: (← stringRest bound))

/-- The characters of a string with its quotes. -/
def string : Scan (List (Option Char)) := do
  Scan.literal ['"']
  let s ← get
  stringRest (s.length + 1)

/-- A string value, U+FFFD standing in where there is no character. -/
def stringValue : Scan String := do
  pure (String.ofList ((← string).map fun c => c.getD (Char.ofNat 0xFFFD)))

/-- The name of a field, all of whose characters must be there. -/
def fieldName : Scan String := do
  match (← string).mapM id with
  | some cs => pure (String.ofList cs)
  | none => Scan.fail

/-- At least one digit. -/
def digits : Scan (List Char) := do
  let ds ← Scan.takeWhile Char.isDigit
  Scan.ensure (!ds.isEmpty)
  pure ds

/-- The number that decimal digits denote. -/
def decimal (ds : List Char) : Nat :=
  ds.foldl (fun n d => 10 * n + (d.toNat - 48)) 0

/-- A number. Only integers are kept; a negative zero is not one. -/
def number : Scan Value := do
  let minus ← Scan.optional (Scan.literal ['-'])
  let ds ← digits
  Scan.ensure (ds.length == 1 || ds.head? != some '0')
  let fraction ← Scan.optional (do Scan.literal ['.']; digits)
  if fraction.isNone then Scan.ensure ((← Scan.peek) != some '.')
  let mark ← Scan.peek
  let exponent ← if mark == some 'e' || mark == some 'E' then do
      let _ ← Scan.next
      let sign ← Scan.peek
      if sign == some '+' || sign == some '-' then
        let _ ← Scan.next
      let _ ← digits
      pure true
    else pure false
  let n := decimal ds
  if fraction.isSome || exponent || (minus.isSome && n == 0) then pure .real
  else pure (.integer (if minus.isSome then -n else n))

mutual

/-- A value and the blanks around it; the first argument bounds the steps. -/
def value : Nat → Scan Value
  | 0 => Scan.fail
  | bound + 1 => do
      blanks
      let v ← match ← Scan.peek with
        | some '{' => do
            Scan.literal ['{']
            blanks
            if (← Scan.peek) == some '}' then
              Scan.literal ['}']
              pure (.table [])
            else pure (.table (← fields bound))
        | some '[' => do
            Scan.literal ['[']
            blanks
            if (← Scan.peek) == some ']' then
              Scan.literal [']']
              pure (.array [])
            else pure (.array (← items bound))
        | some '"' => do pure (.text (← stringValue))
        | some 't' => do
            Scan.literal ['t', 'r', 'u', 'e']
            pure (.boolean true)
        | some 'f' => do
            Scan.literal ['f', 'a', 'l', 's', 'e']
            pure (.boolean false)
        | some 'n' => do
            Scan.literal ['n', 'u', 'l', 'l']
            pure .null
        | _ => number
      blanks
      pure v

/-- The items of an array and its closing bracket. -/
def items : Nat → Scan (List Value)
  | 0 => Scan.fail
  | bound + 1 => do
      let v ← value bound
      match ← Scan.next with
      | ',' => pure (v :: (← items bound))
      | ']' => pure [v]
      | _ => Scan.fail

/-- The fields of an object and its closing brace. -/
def fields : Nat → Scan (List (String × Value))
  | 0 => Scan.fail
  | bound + 1 => do
      blanks
      let name ← fieldName
      blanks
      Scan.literal [':']
      let v ← value bound
      match ← Scan.next with
      | ',' => pure ((name, v) :: (← fields bound))
      | '}' => pure [(name, v)]
      | _ => Scan.fail

end

/-- Reads a text that holds one value. -/
def parse? (s : String) : Option Value :=
  let cs := s.toList
  Scan.whole? (value (2 * cs.length + 2)) cs

/-- A character inside quotes. -/
def quotedChar (c : Char) : List Char :=
  match c with
  | '"' => ['\\', '"']
  | '\\' => ['\\', '\\']
  | '\n' => ['\\', 'n']
  | '\r' => ['\\', 'r']
  | '\t' => ['\\', 't']
  | c =>
      let n := c.toNat
      if n = 8 then ['\\', 'b']
      else if n = 12 then ['\\', 'f']
      else if n < 0x20 then ['\\', 'u', '0', '0', Hex.digit (n / 16), Hex.digit (n % 16)]
      else [c]

/-- A text in quotes. -/
def quoted (s : String) : String :=
  String.ofList ('"' :: s.toList.flatMap quotedChar ++ ['"'])

/-- A line break and the blanks of a level. -/
def lineBreak (level : Nat) : String :=
  String.ofList ('\n' :: List.replicate (2 * level) ' ')

mutual

/-- A value printed at some level. -/
def printAt (level : Nat) : Value → String
  | .null | .real | .moment => "null"
  | .boolean true => "true"
  | .boolean false => "false"
  | .integer n => toString n
  | .text s => quoted s
  | .array [] => "[]"
  | .array (v :: vs) =>
      "[" ++ lineBreak (level + 1) ++ printAt (level + 1) v ++ printItems (level + 1) vs ++
        lineBreak level ++ "]"
  | .table [] => "\x7b\x7d"
  | .table ((name, v) :: fs) =>
      "\x7b" ++ lineBreak (level + 1) ++ quoted name ++ ": " ++ printAt (level + 1) v ++
        printFields (level + 1) fs ++ lineBreak level ++ "\x7d"

/-- The items after the first. -/
def printItems (level : Nat) : List Value → String
  | [] => ""
  | v :: vs => "," ++ lineBreak level ++ printAt level v ++ printItems level vs

/-- The fields after the first. -/
def printFields (level : Nat) : List (String × Value) → String
  | [] => ""
  | (name, v) :: fs =>
      "," ++ lineBreak level ++ quoted name ++ ": " ++ printAt level v ++ printFields level fs

end

/-- A value printed over several lines. -/
def print (v : Value) : String := printAt 0 v

end Mrtd.Format.Json
