import Mrtd.Bytes
import Mrtd.Format.Scan
import Mrtd.Format.Value
import Mrtd.Timestamp

/-!
TOML: a reader for settings. A document is a sequence of headers and key/value lines; each line puts
a value into a tree of tables, in which no table may be defined twice.
-/

namespace Mrtd.Format.Toml

/-- How a table came about. -/
inductive Origin where
  /-- By a header of its own, or as an item of an array of tables. -/
  | header
  /-- On the way to a header. -/
  | implied
  /-- On the way to a dotted key. -/
  | dotted
deriving DecidableEq, Repr

/-- What stands under a key while a document is read. -/
inductive Node where
  | value (v : Value)
  | table (origin : Origin) (fields : List (String × Node))
  | tables (items : List (List (String × Node)))

/-- The fields of a table while a document is read. -/
abbrev Fields := List (String × Node)

/-- Replaces or adds a field. -/
def setField (key : String) (node : Node) : Fields → Fields
  | [] => [(key, node)]
  | (k, old) :: rest => if k = key then (key, node) :: rest else (k, old) :: setField key node rest

/-- Changes the table at the end of a path, whose tables are made with `origin` where they are
missing. The change is told where the table came from. A path leads into the last item of an array
of tables, and never through a value; one made of dotted keys never through a table with a header of
its own. -/
def changeAt (origin : Origin) (change : Origin → Fields → Option Fields) :
    List String → Origin → Fields → Option Fields
  | [], here, fields => change here fields
  | key :: path, _, fields => do
      match fields.lookup key with
      | none =>
          let inner ← changeAt origin change path origin []
          some (setField key (.table origin inner) fields)
      | some (.value _) => none
      | some (.tables items) =>
          let inner ← changeAt origin change path .header (items.getLastD [])
          some (setField key (.tables (items.dropLast ++ [inner])) fields)
      | some (.table o inner) =>
          if origin = .dotted ∧ o = .header then none
          else
            let inner ← changeAt origin change path o inner
            some (setField key (.table o inner) fields)

/-- Puts a value under a dotted key, given the keys in front of the last. -/
def putValue (keys : List String) (last : String) (v : Value) (fields : Fields) : Option Fields :=
  changeAt .dotted (fun origin fields =>
    if !keys.isEmpty && origin != .dotted then none
    else match fields.lookup last with
      | some _ => none
      | none => some (setField last (.value v) fields)) keys .header fields

/-- Opens a table by its header. -/
def openTable (keys : List String) (last : String) (fields : Fields) : Option Fields :=
  changeAt .implied (fun _ fields =>
    match fields.lookup last with
    | none => some (setField last (.table .header []) fields)
    | some (.table .implied inner) => some (setField last (.table .header inner) fields)
    | some _ => none) keys .header fields

/-- Opens a new item of an array of tables by its header. -/
def openItem (keys : List String) (last : String) (fields : Fields) : Option Fields :=
  changeAt .implied (fun _ fields =>
    match fields.lookup last with
    | none => some (setField last (.tables [[]]) fields)
    | some (.tables items) => some (setField last (.tables (items ++ [[]])) fields)
    | some _ => none) keys .header fields

mutual

/-- The value of a node. -/
def Node.toValue : Node → Value
  | .value v => v
  | .table _ fields => .table (fieldValues fields)
  | .tables items => .array (tableValues items)

/-- The values of fields. -/
def fieldValues : List (String × Node) → List (String × Value)
  | [] => []
  | (key, node) :: rest => (key, node.toValue) :: fieldValues rest

/-- The values of the items of an array of tables. -/
def tableValues : List (List (String × Node)) → List Value
  | [] => []
  | fields :: rest => .table (fieldValues fields) :: tableValues rest

end

/-! ### Tokens -/

/-- A blank within a line. -/
def isBlank (c : Char) : Bool := c == ' ' || c == '\t'

/-- Drops blanks within a line. -/
def blanks : Scan Unit := Scan.skipWhile isBlank

/-- A character that a comment may hold. -/
def isCommentChar (c : Char) : Bool :=
  c == '\t' || (0x20 ≤ c.toNat && c.toNat != 0x7F)

def newline : Scan Unit :=
  Scan.either (Scan.literal ['\n']) (Scan.literal ['\r', '\n'])

def comment : Scan Unit := do
  if (← Scan.peek) == some '#' then Scan.skipWhile isCommentChar

/-- What may follow a line: blanks, a comment, and a line break or the end of the text. -/
def endOfLine : Scan Unit := do
  blanks
  comment
  Scan.either newline Scan.finish

/-- Drops blanks, comments and line breaks; the first argument bounds their number. -/
def filler : Nat → Scan Unit
  | 0 => Scan.fail
  | bound + 1 => do
      blanks
      comment
      match ← Scan.optional newline with
      | some _ => filler bound
      | none => pure ()

/-- Drops blanks, comments and line breaks. -/
def skipFiller : Scan Unit := do
  filler ((← get).length + 1)

/-- The character of an escape in a basic string, after the backslash. -/
def escaped : Scan Char := do
  let byNumber (width : Nat) : Scan Char := do
    let s ← get
    let ds := s.take width
    set (s.drop width)
    match ds.mapM Hex.value? with
    | some vs =>
        let n := vs.foldl (fun n d => 16 * n + d) 0
        Scan.ensure (decide (ds.length = width ∧ n < 0x110000 ∧ (n < 0xD800 ∨ 0xE000 ≤ n)))
        pure (Char.ofNat n)
    | none => Scan.fail
  match ← Scan.next with
  | 'b' => pure (Char.ofNat 8)
  | 'f' => pure (Char.ofNat 12)
  | 'n' => pure '\n'
  | 'r' => pure '\r'
  | 't' => pure '\t'
  | '"' => pure '"'
  | '\\' => pure '\\'
  | 'u' => byNumber 4
  | 'U' => byNumber 8
  | _ => Scan.fail

/-- A character that a string of one line may hold. -/
def isLineChar (c : Char) : Bool :=
  c == '\t' || (0x20 ≤ c.toNat && c.toNat != 0x7F)

/-- The rest of a basic string of one line. -/
def basicRest : Nat → Scan (List Char)
  | 0 => Scan.fail
  | bound + 1 => do
      match ← Scan.next with
      | '"' => pure []
      | '\\' =>
          let c ← escaped
          pure (c :: (← basicRest bound))
      | c =>
          Scan.ensure (isLineChar c)
          pure (c :: (← basicRest bound))

/-- The rest of a literal string of one line. -/
def literalRest : Nat → Scan (List Char)
  | 0 => Scan.fail
  | bound + 1 => do
      match ← Scan.next with
      | '\'' => pure []
      | c =>
          Scan.ensure (isLineChar c)
          pure (c :: (← literalRest bound))

/-- The end of a string of several lines: three quotes, before which up to two more belong to the
string. -/
def closing (quote : Char) : Scan (Option (List Char)) := fun s =>
  let run := (s.takeWhile (· == quote)).length
  if run < 3 then some (none, s)
  else if 5 < run then none
  else some (some (List.replicate (run - 3) quote), s.drop run)

/-- A line break inside a string, which is always a line feed. -/
def lineBreak : Scan Unit := newline

/-- After a backslash at the end of a line: blanks, the line break, and all blanks after it. -/
def continuation : Scan Unit := do
  blanks
  newline
  let s ← get
  let skipped := s.dropWhile fun c => isBlank c || c == '\n' || c == '\r'
  set skipped

/-- The rest of a basic string of several lines. -/
def multilineBasicRest : Nat → Scan (List Char)
  | 0 => Scan.fail
  | bound + 1 => do
      match ← closing '"' with
      | some tail => pure tail
      | none =>
          match ← Scan.optional lineBreak with
          | some _ => pure ('\n' :: (← multilineBasicRest bound))
          | none =>
              match ← Scan.next with
              | '\\' =>
                  match ← Scan.optional continuation with
                  | some _ => multilineBasicRest bound
                  | none =>
                      let c ← escaped
                      pure (c :: (← multilineBasicRest bound))
              | c =>
                  Scan.ensure (isLineChar c)
                  pure (c :: (← multilineBasicRest bound))

/-- The rest of a literal string of several lines. -/
def multilineLiteralRest : Nat → Scan (List Char)
  | 0 => Scan.fail
  | bound + 1 => do
      match ← closing '\'' with
      | some tail => pure tail
      | none =>
          match ← Scan.optional lineBreak with
          | some _ => pure ('\n' :: (← multilineLiteralRest bound))
          | none =>
              let c ← Scan.next
              Scan.ensure (isLineChar c)
              pure (c :: (← multilineLiteralRest bound))

/-- A string in any of its four forms. A line break right after three opening quotes is dropped. -/
def string : Scan String := do
  let bound := (← get).length + 1
  let s ← get
  let cs ←
    if s.take 3 = ['"', '"', '"'] then do
      Scan.literal ['"', '"', '"']
      let _ ← Scan.optional newline
      multilineBasicRest bound
    else if s.take 3 = ['\'', '\'', '\''] then do
      Scan.literal ['\'', '\'', '\'']
      let _ ← Scan.optional newline
      multilineLiteralRest bound
    else if s.head? = some '"' then do
      Scan.literal ['"']
      basicRest bound
    else do
      Scan.literal ['\'']
      literalRest bound
  pure (String.ofList cs)

/-- A character of a bare key. -/
def isBareKeyChar (c : Char) : Bool :=
  c.isAlphanum || c == '_' || c == '-'

/-- One key: bare, or a string of one line. -/
def simpleKey : Scan String := do
  let s ← get
  if s.head? = some '"' then
    Scan.literal ['"']
    pure (String.ofList (← basicRest (s.length + 1)))
  else if s.head? = some '\'' then
    Scan.literal ['\'']
    pure (String.ofList (← literalRest (s.length + 1)))
  else
    let cs ← Scan.takeWhile isBareKeyChar
    Scan.ensure (!cs.isEmpty)
    pure (String.ofList cs)

/-- Values nest fewer levels than this, and fewer keys than this are joined by dots. -/
def nestingLimit : Nat := 80

/-- Keys joined by dots, the last of them apart; the first argument bounds their number. -/
def dottedKey : Nat → Scan (List String × String)
  | 0 => Scan.fail
  | bound + 1 => do
      blanks
      let key ← simpleKey
      blanks
      if (← Scan.peek) == some '.' then
        Scan.literal ['.']
        let (keys, last) ← dottedKey bound
        pure (key :: keys, last)
      else pure ([], key)

def key : Scan (List String × String) := dottedKey (nestingLimit - 1)

/-! ### Numbers and dates -/

/-- Digits that satisfy `p`, in which single underscores may stand between two digits. -/
def grouped? (p : Char → Bool) : List Char → Option (List Char)
  | [] => none
  | [c] => if p c then some [c] else none
  | c :: '_' :: rest => if p c then (grouped? p rest).map (c :: ·) else none
  | c :: rest => if p c then (grouped? p rest).map (c :: ·) else none

/-- The number that digits denote in a base. -/
def inBase (base : Nat) (ds : List Char) : Nat :=
  ds.foldl (fun n d => base * n + (Hex.value? d).getD 0) 0

/-- An integer in the range of 64 bits with a sign. -/
def bounded? (n : Int) : Option Value :=
  if -0x8000000000000000 ≤ n ∧ n < 0x8000000000000000 then some (.integer n) else none

/-- A sign and what follows it. -/
def splitSign : List Char → Bool × List Char
  | '-' :: rest => (true, rest)
  | '+' :: rest => (false, rest)
  | s => (false, s)

/-- Decimal digits without a needless leading zero. -/
def decimalDigits? (s : List Char) : Option (List Char) := do
  let ds ← grouped? Char.isDigit s
  if 1 < ds.length && ds.head? == some '0' then none else some ds

/-- An integer in any of its bases. -/
def integer? (s : List Char) : Option Value :=
  match s with
  | '0' :: 'x' :: rest => do
      bounded? (inBase 16 (← grouped? (fun c => (Hex.value? c).isSome) rest))
  | '0' :: 'o' :: rest => do
      bounded? (inBase 8 (← grouped? (fun c => '0' ≤ c && c ≤ '7') rest))
  | '0' :: 'b' :: rest => do
      bounded? (inBase 2 (← grouped? (fun c => c == '0' || c == '1') rest))
  | s => do
      let (negative, s) := splitSign s
      let n : Int := inBase 10 (← decimalDigits? s)
      bounded? (if negative then -n else n)

/-- The part up to the first character that satisfies `p`, and the part from there on. -/
def spanUntil (p : Char → Bool) (s : List Char) : List Char × List Char :=
  (s.takeWhile (! p ·), s.dropWhile (! p ·))

/-- A number with a fraction or an exponent, or one of the named ones. -/
def isReal (s : List Char) : Bool :=
  let (_, s) := splitSign s
  if s = ['i', 'n', 'f'] || s = ['n', 'a', 'n'] then true
  else
    let (whole, rest) := spanUntil (fun c => c == '.' || c == 'e' || c == 'E') s
    let digits (s : List Char) : Bool := (grouped? Char.isDigit s).isSome
    let exponent (s : List Char) : Bool := digits (splitSign s).2
    (decimalDigits? whole).isSome &&
      match rest with
      | '.' :: rest =>
          let (fraction, rest) := spanUntil (fun c => c == 'e' || c == 'E') rest
          digits fraction && match rest with
            | [] => true
            | _ :: e => exponent e
      | _ :: e => exponent e
      | [] => false

/-- A number of exactly `width` digits. -/
def fixed? (width : Nat) (s : List Char) : Option Nat :=
  if s.length = width && s.all Char.isDigit then some (inBase 10 s) else none

/-- A date of the calendar. -/
def isDate (s : List Char) : Bool :=
  s.length == 10 && (s.drop 4).head? == some '-' && (s.drop 7).head? == some '-' &&
    match fixed? 4 (s.take 4), fixed? 2 ((s.drop 5).take 2), fixed? 2 (s.drop 8) with
    | some year, some month, some day =>
        decide (1 ≤ day ∧ day ≤ Timestamp.daysInMonth year month)
    | _, _, _ => false

/-- A time of the day, a leap second included, with or without a fraction. -/
def isTime (s : List Char) : Bool :=
  let (time, fraction) := spanUntil (· == '.') s
  time.length == 8 && (time.drop 2).head? == some ':' && (time.drop 5).head? == some ':' &&
    (match fixed? 2 (time.take 2), fixed? 2 ((time.drop 3).take 2), fixed? 2 (time.drop 6) with
    | some hour, some minute, some second => decide (hour < 24 ∧ minute < 60 ∧ second ≤ 60)
    | _, _, _ => false) &&
    match fraction with
    | [] => true
    | _ :: digits => !digits.isEmpty && digits.all Char.isDigit

/-- A time of the day with an optional offset from UTC. -/
def isZonedTime (s : List Char) : Bool :=
  let (time, zone) := spanUntil (fun c => c == 'Z' || c == 'z' || c == '+' || c == '-') s
  isTime time &&
    match zone with
    | [] => true
    | [z] => z == 'Z' || z == 'z'
    | _ :: offset =>
        offset.length == 5 && (offset.drop 2).head? == some ':' &&
          match fixed? 2 (offset.take 2), fixed? 2 (offset.drop 3) with
          | some hour, some minute => decide (hour < 24 ∧ minute < 60)
          | _, _ => false

/-- A date, a time, or both. -/
def isMoment (s : List Char) : Bool :=
  isDate s || isTime s ||
    (isDate (s.take 10) && ((s.drop 10).head?.any fun c => c == 'T' || c == 't' || c == ' ') &&
      isZonedTime (s.drop 11))

/-- A character of a number, a date or a name. -/
def isPlainChar (c : Char) : Bool :=
  c.isAlphanum || c == '_' || c == '-' || c == '+' || c == '.' || c == ':'

/-- A value that is written without quotes or brackets. A blank may stand between date and time. -/
def plain : Scan Value := do
  let first ← Scan.takeWhile isPlainChar
  let rest ← get
  let joined ←
    if isDate first && rest.head? == some ' ' && (rest.drop 1).head?.any Char.isDigit then do
      Scan.literal [' ']
      let second ← Scan.takeWhile isPlainChar
      pure (first ++ ' ' :: second)
    else pure first
  if joined = "true".toList then pure (.boolean true)
  else if joined = "false".toList then pure (.boolean false)
  else match integer? joined with
    | some v => pure v
    | none =>
        if isReal joined then pure .real
        else if isMoment joined then pure .moment
        else Scan.fail

/-! ### Values and documents -/

mutual

/-- A value that lies `depth` levels deep; the second argument bounds the steps. -/
def value (depth : Nat) : Nat → Scan Value
  | 0 => Scan.fail
  | bound + 1 => do
      match ← Scan.peek with
      | some '"' | some '\'' => do pure (.text (← string))
      | some '[' => do
          Scan.literal ['[']
          Scan.ensure (decide (depth + 1 < nestingLimit))
          pure (.array (← items (depth + 1) bound))
      | some '{' => do
          Scan.literal ['{']
          Scan.ensure (decide (depth + 1 < nestingLimit))
          blanks
          if (← Scan.peek) == some '}' then
            Scan.literal ['}']
            pure (.table [])
          else pure (.table (fieldValues (← inlineFields (depth + 1) bound [])))
      | _ => plain

/-- The items of an array and its closing bracket; a comma may follow the last. -/
def items (depth : Nat) : Nat → Scan (List Value)
  | 0 => Scan.fail
  | bound + 1 => do
      skipFiller
      if (← Scan.peek) == some ']' then
        Scan.literal [']']
        pure []
      else
        let v ← value depth bound
        skipFiller
        match ← Scan.next with
        | ',' => pure (v :: (← items depth bound))
        | ']' => pure [v]
        | _ => Scan.fail

/-- The fields of an inline table and its closing brace, added to those read so far. -/
def inlineFields (depth : Nat) : Nat → Fields → Scan Fields
  | 0, _ => Scan.fail
  | bound + 1, sofar => do
      let (keys, last) ← key
      Scan.literal ['=']
      blanks
      let v ← value depth bound
      blanks
      match putValue keys last v sofar with
      | none => Scan.fail
      | some fields =>
          match ← Scan.next with
          | ',' => inlineFields depth bound fields
          | '}' => pure fields
          | _ => Scan.fail

end

/-- A document while it is read: its tables, and the header under which lines stand. -/
structure Document where
  root : Fields
  header : List String

def header (d : Document) : Scan Document := do
  let double := (← get).take 2 == ['[', '[']
  Scan.literal (if double then ['[', '['] else ['['])
  let (keys, last) ← key
  Scan.literal (if double then [']', ']'] else [']'])
  endOfLine
  match (if double then openItem else openTable) keys last d.root with
  | some root => pure ⟨root, keys ++ [last]⟩
  | none => Scan.fail

/-- Reads a line with a key and a value. -/
def assignment (d : Document) : Scan Document := do
  let (keys, last) ← key
  Scan.literal ['=']
  blanks
  let v ← value 0 (2 * (← get).length + 2)
  endOfLine
  match changeAt .implied (fun _ fields => putValue keys last v fields) d.header .header d.root with
  | some root => pure { d with root }
  | none => Scan.fail

/-- Reads the lines of a document; the first argument bounds their number. -/
def lines : Nat → Document → Scan Document
  | 0, _ => Scan.fail
  | bound + 1, d => do
      skipFiller
      match ← Scan.peek with
      | none => pure d
      | some '[' => do lines bound (← header d)
      | some _ => do lines bound (← assignment d)

/-- Reads a document. A byte order mark in front of it is dropped. -/
def parse? (s : String) : Option Value :=
  let cs := s.toList
  let cs := if cs.head? = some (Char.ofNat 0xFEFF) then cs.drop 1 else cs
  (Scan.whole? (lines (cs.length + 1) ⟨[], []⟩) cs).map fun d => .table (fieldValues d.root)

/-- The longest run of a character. -/
def longestRun (c : Char) (run : Nat) : List Char → Nat
  | [] => run
  | d :: rest => if d == c then longestRun c (run + 1) rest else max run (longestRun c 0 rest)

/-- An escape in a basic string. Line breaks stay where the string may have several lines, and so do
double quotes. -/
def escape (multiline : Bool) (c : Char) : List Char :=
  match c with
  | '"' => if multiline then ['"'] else ['\\', '"']
  | '\\' => ['\\', '\\']
  | '\n' => if multiline then ['\n'] else ['\\', 'n']
  | '\r' => ['\\', 'r']
  | '\t' => ['\\', 't']
  | c =>
      let n := c.toNat
      if n = 8 then ['\\', 'b']
      else if n = 12 then ['\\', 'f']
      else if n < 0x20 ∨ n = 0x7F then
        ['\\', 'u', '0', '0', Hex.upperDigit (n / 16), Hex.upperDigit (n % 16)]
      else [c]

/-- Escapes of a basic string of several lines: of more than two double quotes in a row, each after
the second is escaped and begins a new run. -/
def escapeLines (quotes : Nat) : List Char → List Char
  | [] => []
  | c :: rest =>
      if c == '"' then
        if quotes = 2 then '\\' :: '"' :: escapeLines 0 rest
        else '"' :: escapeLines (quotes + 1) rest
      else escape true c ++ escapeLines 0 rest

/-- A text between quotes of a kind, three of them begin a new line if the text has several. -/
def enclose (quote : Char) (count : Nat) (several : Bool) (cs : List Char) : String :=
  let quotes := List.replicate count quote
  String.ofList (quotes ++ (if several then ['\n'] else []) ++ cs ++ quotes)

/-- A text as a string: the first of the basic, the literal, the long basic and the long literal
form that needs no escape but for tabs, or else a basic string with escapes. -/
def quoted (s : String) : String :=
  let cs := s.toList
  let controls := cs.any fun c => c != '\t' && c != '\n' && (c.toNat < 0x20 || c.toNat == 0x7F)
  let several := cs.contains '\n'
  let backslash := cs.contains '\\'
  let singles := longestRun '\'' 0 cs
  let doubles := longestRun '"' 0 cs
  if !controls && !backslash && doubles = 0 && !several then
    enclose '"' 1 false (cs.flatMap (escape false))
  else if !controls && singles = 0 && !several then enclose '\'' 1 false cs
  else if !controls && !backslash && doubles ≤ 2 then enclose '"' 3 several (escapeLines 0 cs)
  else if !controls && singles ≤ 2 then enclose '\'' 3 several cs
  else if several then enclose '"' 3 several (escapeLines 0 cs)
  else enclose '"' 1 false (cs.flatMap (escape false))

end Mrtd.Format.Toml
