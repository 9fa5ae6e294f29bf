import Mrtd.Proofs.DistinguishedName

/-!
The spellings of a name. Its attributes stand in order between commas or plus signs, of which there
may be more than needed; white space may stand around them and around equals signs, and the white
space inside a value may be of any kind and length. No spelling enters the pieces that a name is
taken apart into, and the pieces tell each attribute up to letter case and white space. So two
spellings compare equal exactly if they spell the same attributes.
-/

namespace Mrtd

namespace DistinguishedName

open Text

/-- A type and a value that can be written without escapes: neither has a separator, and the type has
neither an equals sign nor white space at its ends. -/
structure PlainAttribute where
  type : List Char
  value : List Char
  type_plain : ∀ c ∈ type, c ≠ '=' ∧ isSeparator c = false
  type_head : type.head?.all (! isBlank ·) = true
  type_last : type.getLast?.all (! isBlank ·) = true
  value_plain : ∀ c ∈ value, isSeparator c = false

/-- The second text is the first one with other runs of white space in place of its own. -/
inductive Respaced : List Char → List Char → Prop where
  | nil : Respaced [] []
  | char {s t : List Char} (c : Char) : Respaced s t → Respaced (c :: s) (c :: t)
  | run {v w s t : List Char} : AreBlank v → v ≠ [] → AreBlank w → w ≠ [] → Respaced s t →
      Respaced (v ++ s) (w ++ t)

/-- The attribute with white space around its type and its value and in the value. -/
inductive PlainAttribute.Spelled (a : PlainAttribute) : List Char → Prop where
  | spaced {before left right shown after : List Char} : AreBlank before → AreBlank left →
      AreBlank right → AreBlank after → Respaced a.value shown →
      a.Spelled (before ++ a.type ++ left ++ '=' :: (right ++ shown ++ after))

/-- Attributes in order, with separators between them and around blank elements. -/
inductive Spelled : List PlainAttribute → List Char → Prop where
  | blank {w : List Char} : AreBlank w → Spelled [] w
  | last {a : PlainAttribute} {s : List Char} : a.Spelled s → Spelled [a] s
  | skip {as : List PlainAttribute} {w s : List Char} {c : Char} : AreBlank w →
      isSeparator c = true → Spelled as s → Spelled as (w ++ c :: s)
  | next {a : PlainAttribute} {as : List PlainAttribute} {s t : List Char} {c : Char} :
      a.Spelled s → isSeparator c = true → Spelled as t → Spelled (a :: as) (s ++ c :: t)

variable {s t w : List Char} {a b : PlainAttribute} {as bs : List PlainAttribute}

theorem Respaced.refl (s : List Char) : Respaced s s := by
  induction s with
  | nil => exact .nil
  | cons c rest ih => exact .char c ih

theorem isSeparator_of_isBlank {c : Char} (h : isBlank c = true) : isSeparator c = false := by
  cases hc : isSeparator c with
  | false => rfl
  | true =>
      rw [isSeparator, Bool.or_eq_true, beq_iff_eq, beq_iff_eq] at hc
      rcases hc with rfl | rfl
      · exact absurd h (by decide)
      · exact absurd h (by decide)

theorem plain_of_areBlank (h : AreBlank w) : ∀ c ∈ w, c ≠ '=' ∧ isSeparator c = false := by
  intro c hc
  refine ⟨?_, isSeparator_of_isBlank (h c hc)⟩
  rintro rfl
  exact absurd (h _ hc) (by decide)

theorem Respaced.isSeparator_eq (h : Respaced s t) (hs : ∀ c ∈ s, isSeparator c = false) :
    ∀ c ∈ t, isSeparator c = false := by
  induction h with
  | nil => exact hs
  | char x _ ih =>
      obtain ⟨hx, hrest⟩ := List.forall_mem_cons.1 hs
      exact List.forall_mem_cons.2 ⟨hx, ih hrest⟩
  | run _ _ hw _ _ ih =>
      obtain ⟨_, hrest⟩ := List.forall_mem_append.1 hs
      exact List.forall_mem_append.2 ⟨fun c hc => isSeparator_of_isBlank (hw c hc), ih hrest⟩

/-- The words of a text do not depend on the white space between them. A character may continue a
word, so what stands in front is carried along. -/
theorem Respaced.words_eq (h : Respaced s t) : words t = words s := by
  suffices hfront : ∀ front, words (front ++ t) = words (front ++ s) from hfront []
  induction h with
  | nil => exact fun _ => rfl
  | char x _ ih =>
      intro front
      simpa using ih (front ++ [x])
  | run hv hvne hw hwne _ ih =>
      intro front
      rw [← List.append_assoc, ← List.append_assoc, words_append_blank hv hvne,
        words_append_blank hw hwne]
      exact congrArg (words front ++ ·) (ih [])

namespace PlainAttribute

/-- The normal form of an attribute. -/
def piece (a : PlainAttribute) : List Char :=
  normalPiece a.type a.value

/-- The same type up to the case of ASCII letters, and the same value up to case and white space. -/
def SameUpToFormat (a b : PlainAttribute) : Prop :=
  a.type.map Char.toLower = b.type.map Char.toLower ∧
    normalizeValue a.value = normalizeValue b.value

/-- A spelled attribute is one piece. -/
theorem Spelled.pieces_eq (h : a.Spelled s) : pieces s = [a.piece] := by
  obtain ⟨hbefore, hleft, hright, hafter, hshown⟩ := h
  rename_i before left right shown after
  have htype : ∀ c ∈ before ++ a.type ++ left, c ≠ '=' ∧ isSeparator c = false := by
    refine List.forall_mem_append.2 ⟨List.forall_mem_append.2 ⟨?_, a.type_plain⟩, ?_⟩
    · exact plain_of_areBlank hbefore
    · exact plain_of_areBlank hleft
  have hvalue : ∀ c ∈ right ++ shown ++ after, isSeparator c = false := by
    refine List.forall_mem_append.2 ⟨List.forall_mem_append.2 ⟨?_, ?_⟩, ?_⟩
    · exact fun c hc => isSeparator_of_isBlank (hright c hc)
    · exact hshown.isSeparator_eq a.value_plain
    · exact fun c hc => isSeparator_of_isBlank (hafter c hc)
  have htrim : trimChars (before ++ a.type ++ left) = a.type := by
    rw [trimChars_between hbefore hleft, trimChars_eq_self a.type_head a.type_last]
  have hwords : words (right ++ shown ++ after) = words a.value := by
    rw [words_between hright hafter, hshown.words_eq]
  rw [pieces_eq_normalPiece htype hvalue, htrim, piece, normalPiece, normalPiece, normalizeValue,
    normalizeValue, hwords]

theorem toUpper_type_ne (a : PlainAttribute) : ∀ c ∈ a.type, c.toUpper ≠ '=' ∧ c.toUpper ≠ ',' := by
  intro c hc
  obtain ⟨hequals, hseparator⟩ := a.type_plain c hc
  refine ⟨fun h => hequals (eq_of_toUpper_eq (by decide) h), fun h => ?_⟩
  rw [eq_of_toUpper_eq (by decide) h] at hseparator
  exact absurd hseparator (by decide)

theorem areApart_pieces (as : List PlainAttribute) : AreApart (as.map piece) := by
  intro p hp
  obtain ⟨a, _, rfl⟩ := List.mem_map.1 hp
  constructor
  · simp [piece, normalPiece]
  · apply comma_not_mem_normalPiece
    · exact fun c hc => (a.toUpper_type_ne c hc).2
    · exact a.value_plain

/-- The normal form tells exactly as much of an attribute as its format leaves. -/
theorem piece_eq_iff : a.piece = b.piece ↔ a.SameUpToFormat b := by
  constructor
  · intro h
    obtain ⟨htype, hvalue⟩ := normalPiece_injective (fun c hc => (a.toUpper_type_ne c hc).1)
      (fun c hc => (b.toUpper_type_ne c hc).1) h
    exact ⟨map_toUpper_eq_iff.1 htype, hvalue⟩
  · rintro ⟨htype, hvalue⟩
    rw [piece, piece, normalPiece, normalPiece, map_toUpper_eq_iff.2 htype, hvalue]

/-- Lists of attributes have the same pieces exactly if they agree position by position. -/
theorem map_piece_eq_iff : as.map piece = bs.map piece ↔ List.Forall₂ SameUpToFormat as bs := by
  calc as.map piece = bs.map piece
      ↔ List.Forall₂ (· = ·) (as.map piece) (bs.map piece) := by rw [List.forall₂_eq_eq_eq]
    _ ↔ List.Forall₂ (fun a b => a.piece = b.piece) as bs := by
        rw [List.forall₂_map_left_iff, List.forall₂_map_right_iff]
    _ ↔ List.Forall₂ SameUpToFormat as bs := by simp only [piece_eq_iff]

end PlainAttribute

theorem pieces_append_cons {c : Char} (h : isSeparator c = true) :
    pieces (s ++ c :: t) = pieces s ++ pieces t := by
  rw [pieces, attributes_append_cons h, List.map_append]
  rfl

theorem pieces_of_areBlank (h : AreBlank w) : pieces w = [] := by
  have hleft : trimLeft w = [] := List.dropWhile_eq_nil_iff.2 h
  have htrim : trimChars w = [] := by
    rw [trimChars, hleft]
    rfl
  have hone : splitOn isSeparator w = [w] :=
    splitOn_eq_singleton fun c hc => isSeparator_of_isBlank (h c hc)
  rw [pieces, attributes, hone, List.map_singleton, htrim]
  rfl

/-- Whatever the spelling, a name is taken apart into its attributes. -/
theorem Spelled.pieces_eq (h : Spelled as s) : pieces s = as.map PlainAttribute.piece := by
  induction h with
  | blank hw => exact pieces_of_areBlank hw
  | last ha => exact ha.pieces_eq
  | skip hw hc _ ih => rw [pieces_append_cons hc, pieces_of_areBlank hw, ih, List.nil_append]
  | next ha hc _ ih => rw [pieces_append_cons hc, ha.pieces_eq, ih, List.singleton_append,
      List.map_cons]

theorem Spelled.areApart (h : Spelled as s) : AreApart (pieces s) := by
  rw [h.pieces_eq]
  exact PlainAttribute.areApart_pieces as

/-- Two spelled names compare equal exactly if their attributes agree up to format, position by
position. -/
theorem same_iff_of_spelled {n m : String} (hn : Spelled as n.toList) (hm : Spelled bs m.toList) :
    same n m = true ↔ List.Forall₂ PlainAttribute.SameUpToFormat as bs := by
  rw [same_iff_pieces_eq hn.areApart hm.areApart, hn.pieces_eq, hm.pieces_eq]
  exact PlainAttribute.map_piece_eq_iff

end DistinguishedName

namespace Specimen

open Text DistinguishedName

def country : PlainAttribute :=
  ⟨['C'], ['K', 'R'], forall_mem_of_all (by decide), by decide, by decide,
    forall_mem_of_all (by decide)⟩

def office : PlainAttribute :=
  ⟨['O'], ['A', ' ', 'B'], forall_mem_of_all (by decide), by decide, by decide,
    forall_mem_of_all (by decide)⟩

def smallCountry : PlainAttribute :=
  ⟨['c'], ['k', 'r'], forall_mem_of_all (by decide), by decide, by decide,
    forall_mem_of_all (by decide)⟩

def smallOffice : PlainAttribute :=
  ⟨['o'], ['a', ' ', 'b'], forall_mem_of_all (by decide), by decide, by decide,
    forall_mem_of_all (by decide)⟩

theorem spelled_office : Spelled [country, office] "C=KR, O=A B".toList :=
  have hcountry : country.Spelled ([] ++ ['C'] ++ [] ++ '=' :: ([] ++ ['K', 'R'] ++ [])) :=
    .spaced (by decide) (by decide) (by decide) (by decide) (.refl _)
  have hoffice : office.Spelled ([' '] ++ ['O'] ++ [] ++ '=' :: ([] ++ ['A', ' ', 'B'] ++ [])) :=
    .spaced (by decide) (by decide) (by decide) (by decide) (.refl _)
  .next hcountry (c := ',') rfl (.last hoffice)

/-- With an empty element, a separator at the end, and a space that does not break the line. -/
theorem spelled_smallOffice :
    Spelled [smallCountry, smallOffice] "\tc = kr + , o =a\u00a0 b,".toList :=
  have hcountry : smallCountry.Spelled
      (['\t'] ++ ['c'] ++ [' '] ++ '=' :: ([' '] ++ ['k', 'r'] ++ [' '])) :=
    .spaced (by decide) (by decide) (by decide) (by decide) (.refl _)
  have hshown : Respaced ['a', ' ', 'b'] ['a', '\u00a0', ' ', 'b'] :=
    .char 'a' (.run (v := [' ']) (w := ['\u00a0', ' ']) (by decide) (by decide) (by decide)
      (by decide) (.refl ['b']))
  have hoffice : smallOffice.Spelled
      ([' '] ++ ['o'] ++ [' '] ++ '=' :: ([] ++ ['a', '\u00a0', ' ', 'b'] ++ [])) :=
    .spaced (by decide) (by decide) (by decide) (by decide) hshown
  .next hcountry (c := '+') rfl
    (.skip (w := [' ']) (c := ',') (by decide) rfl
      (.next hoffice (c := ',') rfl (.blank (w := []) (by decide))))

theorem same_smallOffice :
    Spelled [country, office] "C=KR, O=A B".toList ∧
      Spelled [smallCountry, smallOffice] "\tc = kr + , o =a\u00a0 b,".toList ∧
      (same "C=KR, O=A B" "\tc = kr + , o =a\u00a0 b," = true ↔
        List.Forall₂ PlainAttribute.SameUpToFormat [country, office] [smallCountry, smallOffice]) ∧
      same "C=KR, O=A B" "\tc = kr + , o =a\u00a0 b," = true := by
  have hiff := same_iff_of_spelled spelled_office spelled_smallOffice
  have hformat :
      List.Forall₂ PlainAttribute.SameUpToFormat [country, office] [smallCountry, smallOffice] :=
    .cons ⟨by decide, by decide⟩ (.cons ⟨by decide, by decide⟩ .nil)
  exact ⟨spelled_office, spelled_smallOffice, hiff, hiff.2 hformat⟩

end Specimen

end Mrtd
