import Mrtd.Der.Fields

/-!
The order of the members of a SET. Members are sorted as they are read, and two that compare as
equal are refused.
-/

namespace Mrtd.Der

variable {α : Type}

/-- Octet strings in dictionary order. -/
def compareBytes : Bytes → Bytes → Ordering
  | [], [] => .eq
  | [], _ :: _ => .lt
  | _ :: _, [] => .gt
  | a :: as, b :: bs => (compare a b).then (compareBytes as bs)

namespace Element

/-- Tag, then length. -/
def compareHeader (a b : Element) : Ordering :=
  (compare a.tag b.tag).then (compare a.content.length b.content.length)

/-- Tag, then length, then contents. -/
def order (a b : Element) : Ordering :=
  (compareHeader a b).then (compareBytes a.content b.content)

/-- The length of the octets of an encoding when each is written as an INTEGER: three octets, or
four from 128 on. -/
def spelledLength (b : Bytes) : Nat :=
  b.foldl (fun n octet => n + if octet.toNat < 0x80 then 3 else 4) 0

/-- The order of alternatives: tag, then length, then the encodings as sequences of numbers. -/
def alternativeOrder (a b : Element) : Ordering :=
  (compareHeader a b).then <|
    (compare (spelledLength a.encode) (spelledLength b.encode)).then <|
      compareBytes a.encode b.encode

end Element

/-- The order of fields that may be missing. A missing one is before all others, and before another
missing one too. -/
def optionalOrder (order : α → α → Ordering) : Option α → Option α → Ordering
  | none, _ => .lt
  | some _, none => .gt
  | some a, some b => order a b

/-- Puts a member among members in descending order. It goes in front of the first that is less. -/
def insertMember (order : α → α → Ordering) (a : α) : List α → Option (List α)
  | [] => some [a]
  | b :: rest =>
      match order b a with
      | .lt => some (a :: b :: rest)
      | .eq => none
      | .gt => (insertMember order a rest).map (b :: ·)

/-- The members in ascending order; fails when two are equal. -/
def sortMembers (order : α → α → Ordering) (members : List α) : Option (List α) :=
  (members.foldlM (fun sorted a => insertMember order a sorted) []).map List.reverse

/-- The sorted members of an element with a tag. -/
def setOf? (tag : UInt8) (member : Element → Option α) (order : α → α → Ordering) (e : Element) :
    Option (List α) := do
  sortMembers order (← membersOf? tag member e)

end Mrtd.Der
