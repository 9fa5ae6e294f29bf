import Mrtd.Bytes

/-!
Elements in the distinguished encoding: one octet for the tag, the shortest form of the length, then
the contents. Writing an element and reading it back are inverse to each other.
-/

namespace Mrtd.Der

/-- One element: its tag octet and its contents. -/
structure Element where
  tag : UInt8
  content : Bytes
deriving DecidableEq, Repr

/-- The greatest length that is written or read. -/
def maxLength : Nat := 0xFFFFFFF

/-- The length octets of a number up to `maxLength`. -/
def lengthOctets (n : Nat) : Bytes :=
  if n < 0x80 then [UInt8.ofNat n]
  else if n < 0x100 then [0x81, UInt8.ofNat n]
  else if n < 0x10000 then [0x82, UInt8.ofNat (n / 0x100), UInt8.ofNat (n % 0x100)]
  else if n < 0x1000000 then
    [0x83, UInt8.ofNat (n / 0x10000), UInt8.ofNat (n / 0x100 % 0x100), UInt8.ofNat (n % 0x100)]
  else
    [0x84, UInt8.ofNat (n / 0x1000000), UInt8.ofNat (n / 0x10000 % 0x100),
      UInt8.ofNat (n / 0x100 % 0x100), UInt8.ofNat (n % 0x100)]

/-- The encoding of an element. -/
def Element.encode (e : Element) : Bytes :=
  e.tag :: lengthOctets e.content.length ++ e.content

/-- The tags that are known: the universal ones in use, in their one permitted form, and every tag
of another class whose number fits in one octet. -/
def isTag (tag : UInt8) : Bool :=
  let n := tag.toNat
  if n < 0x40 then
    [0x01, 0x02, 0x03, 0x04, 0x05, 0x06, 0x09, 0x0A, 0x0C, 0x12, 0x13, 0x14, 0x15, 0x16, 0x17,
      0x18, 0x1A, 0x1E, 0x30, 0x31].contains n
  else n % 32 ≠ 31

/-- Reads length octets; refuses every form but the shortest. -/
def readLength : Bytes → Option (Nat × Bytes)
  | [] => none
  | first :: rest =>
      let size := first.toNat - 0x80
      if first.toNat < 0x80 then some (first.toNat, rest)
      else if size = 0 ∨ 4 < size ∨ rest.length < size then none
      else
        let n := Bytes.toNat (rest.take size)
        if n ≤ maxLength ∧ lengthOctets n = first :: rest.take size then some (n, rest.drop size)
        else none

/-- The length octets of a number are read back, whatever follows them. -/
theorem readLength_lengthOctets {n : Nat} (h : n ≤ maxLength) (rest : Bytes) :
    readLength (lengthOctets n ++ rest) = some (n, rest) := by
  have hmax : n ≤ 0xFFFFFFF := h
  by_cases h1 : n < 0x80
  · have : n % 256 = n := by omega
    simp [lengthOctets, readLength, h1, this]
  by_cases h2 : n < 0x100
  · have : n % 256 = n := by omega
    simp [lengthOctets, readLength, h1, h2, Bytes.toNat, this, h]
  by_cases h3 : n < 0x10000
  · have e : n / 256 % 256 * 256 + n % 256 = n := by omega
    simp [lengthOctets, readLength, h1, h2, h3, Bytes.toNat, e, h]
  by_cases h4 : n < 0x1000000
  · have e : (n / 65536 % 256 * 256 + n / 256 % 256) * 256 + n % 256 = n := by omega
    simp [lengthOctets, readLength, h1, h2, h3, h4, Bytes.toNat, e, h]
  · have e : ((n / 16777216 % 256 * 256 + n / 65536 % 256) * 256 + n / 256 % 256) * 256 +
        n % 256 = n := by omega
    simp [lengthOctets, readLength, h1, h2, h3, h4, Bytes.toNat, e, h]

theorem eq_append_of_readLength {b rest : Bytes} {n : Nat} (h : readLength b = some (n, rest)) :
    b = lengthOctets n ++ rest ∧ n ≤ maxLength := by
  cases b with
  | nil => simp [readLength] at h
  | cons first tail =>
      simp only [readLength] at h
      split at h
      · rename_i hshort
        obtain ⟨rfl, rfl⟩ : first.toNat = n ∧ tail = rest := by simpa using h
        refine ⟨by simp [lengthOctets, hshort], ?_⟩
        have : first.toNat ≤ 0xFFFFFFF := by omega
        exact this
      · split at h
        · simp at h
        · split at h
          · rename_i hform
            obtain ⟨rfl, rfl⟩ := Prod.mk.injEq .. ▸ Option.some.inj h
            refine ⟨?_, hform.1⟩
            rw [hform.2, List.cons_append, List.take_append_drop]
          · simp at h

/-- Reads the element at the start of an octet string. -/
def readElement : Bytes → Option (Element × Bytes)
  | [] => none
  | tag :: rest =>
      if isTag tag then
        match readLength rest with
        | some (n, rest) =>
            if rest.length < n then none else some (⟨tag, rest.take n⟩, rest.drop n)
        | none => none
      else none

/-- An element with a known tag is read back from its encoding, whatever follows it. -/
theorem readElement_encode {e : Element} (htag : isTag e.tag = true)
    (hlength : e.content.length ≤ maxLength) (rest : Bytes) :
    readElement (e.encode ++ rest) = some (e, rest) := by
  have hread := readLength_lengthOctets hlength (e.content ++ rest)
  simp [Element.encode, readElement, htag, hread]

theorem eq_append_of_readElement {b rest : Bytes} {e : Element}
    (h : readElement b = some (e, rest)) :
    b = e.encode ++ rest ∧ isTag e.tag = true ∧ e.content.length ≤ maxLength := by
  cases b with
  | nil => simp [readElement] at h
  | cons tag tail =>
      simp only [readElement] at h
      split at h
      · rename_i htag
        split at h
        · rename_i n body hread
          obtain ⟨htail, hn⟩ := eq_append_of_readLength hread
          split at h
          · simp at h
          · rename_i hlength
            obtain ⟨rfl, rfl⟩ := Prod.mk.injEq .. ▸ Option.some.inj h
            have hn' : min n body.length = n := by omega
            simp [Element.encode, htail, htag, hn, hn']
        · simp at h
      · simp at h

/-- Reading an element takes at least its tag. -/
theorem length_lt_of_readElement {b rest : Bytes} {e : Element}
    (h : readElement b = some (e, rest)) : rest.length < b.length := by
  rw [(eq_append_of_readElement h).1]
  simp [Element.encode]
  omega

/-- The element that an octet string consists of. -/
def decode? (b : Bytes) : Option Element :=
  match readElement b with
  | some (e, []) => some e
  | _ => none

/-- The elements that an octet string consists of; the first argument bounds their number. -/
def elementsWithin : Nat → Bytes → Option (List Element)
  | _, [] => some []
  | 0, _ :: _ => none
  | bound + 1, b =>
      match readElement b with
      | some (e, rest) => (elementsWithin bound rest).map (e :: ·)
      | none => none

/-- Splits an octet string into the elements it consists of. -/
def elements? (b : Bytes) : Option (List Element) :=
  elementsWithin b.length b

/-- The encodings of some elements, one after the other. -/
def encodeAll (es : List Element) : Bytes :=
  es.flatMap Element.encode

/-- The contents of an INTEGER above zero in their only form. -/
def positive? (content : Bytes) : Option Nat :=
  match content with
  | [] => none
  | [a] => if 0 < a.toNat ∧ a.toNat < 0x80 then some a.toNat else none
  | a :: b :: _ =>
      if a.toNat < 0x80 ∧ (a = 0 → 0x80 ≤ b.toNat) then some (Bytes.toNat content) else none

/-- The two numbers above zero of a SEQUENCE that consists of them. -/
def positivePair? (b : Bytes) : Option (Nat × Nat) := do
  let outer ← decode? b
  if outer.tag ≠ 0x30 then none
  match ← elements? outer.content with
  | [first, second] =>
      if first.tag = 0x02 ∧ second.tag = 0x02 then
        some (← positive? first.content, ← positive? second.content)
      else none
  | _ => none

end Mrtd.Der
