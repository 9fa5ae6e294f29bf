import Mrtd.Asn1.Name
import Mrtd.DistinguishedName
import Mrtd.Proofs.Der.Fields
import Mrtd.Proofs.Der.Oid
import Mrtd.Proofs.Text.Blank
import Mrtd.Proofs.Text.Case

/-!
What two names have in common when their texts compare equal. Names are printed without escaping and
then taken apart again at commas and plus signs. Where no value has one of these, what is taken apart
is what was printed: the normal form tells the type of every attribute, and its value up to letter
case and white space.
-/

namespace Mrtd

namespace DistinguishedName

open Text

variable {a b name piece : List Char}

theorem map_trimChars_splitOn_cons {x : Char} (hseparator : isSeparator x = false)
    (hblank : isBlank x = true) (s : List Char) :
    (splitOn isSeparator (x :: s)).map trimChars = (splitOn isSeparator s).map trimChars := by
  obtain ⟨first, pieces, hs⟩ := exists_splitOn_cons isSeparator s
  rw [splitOn_cons_of_neg hseparator hs, hs, List.map_cons, List.map_cons, trimChars_cons hblank]

theorem attributes_space_cons (s : List Char) : attributes (' ' :: s) = attributes s := by
  rw [attributes, attributes, map_trimChars_splitOn_cons (by decide) (by decide)]

theorem attributes_append_space (s : List Char) : attributes (s ++ [' ']) = attributes s := by
  obtain ⟨pieces, last, hs, hlonger⟩ :=
    exists_splitOn_append_singleton (p := isSeparator) (x := ' ') (by decide) s
  have hblank : trimChars (last ++ [' ']) = trimChars last :=
    trimChars_append_singleton (by decide)
  rw [attributes, attributes, hs, hlonger]
  simp only [List.map_append, List.map_cons, List.map_nil, hblank]

theorem attributes_append_cons {c : Char} (h : isSeparator c = true) :
    attributes (a ++ c :: b) = attributes a ++ attributes b := by
  rw [attributes, splitOn_append_cons h, List.map_append, List.filter_append]
  rfl

/-- What stands between two attributes of a printed name. -/
def IsJoin (join : List Char) : Prop :=
  ∀ a b, attributes (a ++ join ++ b) = attributes a ++ attributes b

theorem isJoin_comma : IsJoin ", ".toList := by
  intro a b
  have hjoin : a ++ ", ".toList ++ b = a ++ ',' :: ' ' :: b := by simp
  rw [hjoin, attributes_append_cons (by decide), attributes_space_cons]

theorem isJoin_plus : IsJoin " + ".toList := by
  intro a b
  have hjoin : a ++ " + ".toList ++ b = (a ++ [' ']) ++ '+' :: ' ' :: b := by simp
  rw [hjoin, attributes_append_cons (by decide), attributes_append_space, attributes_space_cons]

theorem attributes_nil : attributes [] = [] := by decide

/-- The attributes of names that are joined are the attributes of each. -/
theorem attributes_intercalate {join : List Char} (h : IsJoin join) (names : List (List Char)) :
    attributes (join.intercalate names) = names.flatMap attributes := by
  induction names with
  | nil => exact attributes_nil
  | cons first rest ih =>
      cases rest with
      | nil => simp
      | cons second more =>
          rw [List.intercalate_cons_cons, h, ih]
          rfl

/-- An attribute in normal form. It is told from others by its type and by its value up to letter
case and white space. -/
def normalPiece (type value : List Char) : List Char :=
  type.map Char.toUpper ++ '=' :: normalizeValue value

/-- A text that can be the type of an attribute. -/
structure IsTypeText (type : List Char) : Prop where
  head : type.head?.any (! isBlank ·) = true
  last : type.getLast?.any (! isBlank ·) = true
  not_mem : ∀ c ∈ type, c ≠ '=' ∧ isSeparator c = false
  upper : ∀ c ∈ type, c.toUpper ≠ '=' ∧ c.toUpper ≠ ','

theorem IsTypeText.trimChars_eq {type : List Char} (h : IsTypeText type) : trimChars type = type := by
  have hall {c : Option Char} (hc : c.any (! isBlank ·) = true) : c.all (! isBlank ·) = true := by
    cases c with
    | none => rfl
    | some c => exact hc
  exact trimChars_eq_self (hall h.head) (hall h.last)

theorem normalizeValue_trimRight (value : List Char) :
    normalizeValue (trimRight value) = normalizeValue value := by
  rw [normalizeValue, words_trimRight]
  rfl

/-- What the normal form joins by commas. -/
def pieces (name : List Char) : List (List Char) :=
  (attributes name).map normalizeAttribute

theorem pieces_intercalate {α : Type} {join : List Char} {text : α → List Char}
    {form : α → List (List Char)} {parts : List α} (h : IsJoin join)
    (hparts : ∀ part ∈ parts, pieces (text part) = form part) :
    pieces (join.intercalate (parts.map text)) = (parts.map form).flatten := by
  rw [pieces, attributes_intercalate h, List.map_flatMap, List.flatMap_def, List.map_map]
  exact congrArg List.flatten (List.map_congr_left hparts)

/-- A text without separators is one piece, with what stands before its first equals sign as type. -/
theorem pieces_eq_normalPiece {before after : List Char}
    (hbefore : ∀ c ∈ before, c ≠ '=' ∧ isSeparator c = false)
    (hafter : ∀ c ∈ after, isSeparator c = false) :
    pieces (before ++ '=' :: after) = [normalPiece (trimChars before) after] := by
  have hone : ∀ c ∈ before ++ '=' :: after, isSeparator c = false := by
    refine List.forall_mem_append.2 ⟨fun c hc => (hbefore c hc).2, ?_⟩
    exact List.forall_mem_cons.2 ⟨by decide, hafter⟩
  have htrim : trimChars (before ++ '=' :: after) = trimLeft before ++ '=' :: trimRight after := by
    rw [trimChars, trimLeft_append_cons (by decide), trimRight_append_cons (by decide)]
  have hattributes :
      attributes (before ++ '=' :: after) = [trimLeft before ++ '=' :: trimRight after] := by
    rw [attributes, splitOn_eq_singleton hone, List.map_singleton, htrim]
    exact List.filter_cons_of_pos (by simp)
  have hcut : cutAt (· == '=') (trimLeft before ++ '=' :: trimRight after) =
      some (trimLeft before, trimRight after) := by
    refine cutAt_append_cons (fun c hc => ?_) (by decide)
    simpa using (hbefore c ((List.dropWhile_sublist _).subset hc)).1
  rw [pieces, hattributes, List.map_singleton, normalizeAttribute, hcut]
  dsimp only
  rw [trimChars_trimLeft, normalizeValue_trimRight, normalPiece]

/-- The one piece of an attribute without separators. -/
theorem pieces_attribute {type value : List Char} (htype : IsTypeText type)
    (hvalue : ∀ c ∈ value, isSeparator c = false) :
    pieces (type ++ '=' :: value) = [normalPiece type value] := by
  rw [pieces_eq_normalPiece htype.not_mem hvalue, htype.trimChars_eq]

theorem normalPiece_injective {type type' value value' : List Char}
    (h : ∀ c ∈ type, c.toUpper ≠ '=') (h' : ∀ c ∈ type', c.toUpper ≠ '=')
    (heq : normalPiece type value = normalPiece type' value') :
    type.map Char.toUpper = type'.map Char.toUpper ∧
      normalizeValue value = normalizeValue value' := by
  have hcut {type value : List Char} (h : ∀ c ∈ type, c.toUpper ≠ '=') :
      cutAt (· == '=') (normalPiece type value) =
        some (type.map Char.toUpper, normalizeValue value) := by
    refine cutAt_append_cons (fun c hc => ?_) (by decide)
    obtain ⟨small, hsmall, rfl⟩ := List.mem_map.1 hc
    simpa using h small hsmall
  rw [← Prod.mk.injEq, ← Option.some.injEq, ← hcut h, ← hcut h', heq]

/-- What a text can be searched for. -/
theorem forall_mem_of_all {s : List Char} {P : Char → Prop} [DecidablePred P]
    (h : s.all (fun c => decide (P c)) = true) : ∀ c ∈ s, P c :=
  fun c hc => of_decide_eq_true (List.all_eq_true.1 h c hc)

/-- What holds of the separator and of every piece holds of what they are joined to. -/
theorem forall_mem_intercalate {P : Char → Prop} {join : List Char} {pieces : List (List Char)}
    (hjoin : ∀ c ∈ join, P c) (hpieces : ∀ piece ∈ pieces, ∀ c ∈ piece, P c) :
    ∀ c ∈ join.intercalate pieces, P c := by
  induction pieces with
  | nil =>
      intro c hc
      cases hc
  | cons first rest ih =>
      obtain ⟨hfirst, hrest⟩ := List.forall_mem_cons.1 hpieces
      cases rest with
      | nil => simpa using hfirst
      | cons second more =>
          intro c hc
          rw [List.intercalate_cons_cons, List.append_assoc] at hc
          rcases List.mem_append.1 hc with hmem | hmem
          · exact hfirst c hmem
          rcases List.mem_append.1 hmem with hmem | hmem
          · exact hjoin c hmem
          · exact ih hrest c hmem

theorem comma_not_mem_normalizeValue {value : List Char} (h : ',' ∉ value) :
    ',' ∉ normalizeValue value := by
  refine comma_not_mem_lowerChars fun hmem => ?_
  have hother : ∀ c ∈ [' '].intercalate (words value), c ≠ ',' := by
    refine forall_mem_intercalate (forall_mem_of_all (by decide)) fun word hword c hc heq => ?_
    exact h (mem_of_mem_words hword (heq ▸ hc))
  exact hother ',' hmem rfl

theorem comma_not_mem_normalPiece {type value : List Char} (htype : ∀ c ∈ type, c.toUpper ≠ ',')
    (hvalue : ∀ c ∈ value, isSeparator c = false) : ',' ∉ normalPiece type value := by
  have hcomma : ',' ∉ value := by
    intro hmem
    exact absurd (hvalue _ hmem) (by decide)
  intro hmem
  rcases List.mem_append.1 hmem with hupper | hrest
  · obtain ⟨small, hsmall, heq⟩ := List.mem_map.1 hupper
    exact htype small hsmall heq
  rcases List.mem_cons.1 hrest with heq | hmem
  · cases heq
  · exact comma_not_mem_normalizeValue hcomma hmem

/-- Pieces without commas are told apart when they are joined by commas. -/
theorem intercalate_comma_injective {as bs : List (List Char)}
    (ha : ∀ a ∈ as, a ≠ [] ∧ ',' ∉ a) (hb : ∀ b ∈ bs, b ≠ [] ∧ ',' ∉ b)
    (h : [','].intercalate as = [','].intercalate bs) : as = bs := by
  have hsplit {pieces : List (List Char)} (hpieces : ∀ piece ∈ pieces, piece ≠ [] ∧ ',' ∉ piece) :
      (([','].intercalate pieces).splitOn ',').filter (! ·.isEmpty) = pieces := by
    have hnonempty : pieces.filter (! ·.isEmpty) = pieces := by
      refine List.filter_eq_self.2 fun piece hpiece => ?_
      simpa using (hpieces piece hpiece).1
    cases hcases : pieces with
    | nil => rfl
    | cons first rest =>
        rw [← hcases, List.splitOn_intercalate ',' (fun piece hpiece => (hpieces piece hpiece).2)
          (by simp [hcases]), hnonempty]
  rw [← hsplit ha, h, hsplit hb]

/-- Pieces that are found again in what they are joined to by commas. -/
def AreApart (pieces : List (List Char)) : Prop :=
  ∀ piece ∈ pieces, piece ≠ [] ∧ ',' ∉ piece

/-- Names whose pieces have no commas compare equal exactly if they have the same pieces. -/
theorem same_iff_pieces_eq {n m : String} (hn : AreApart (pieces n.toList))
    (hm : AreApart (pieces m.toList)) :
    same n m = true ↔ pieces n.toList = pieces m.toList := by
  have hform (n : String) :
      normalize n = String.ofList ([','].intercalate (pieces n.toList)) := by
    unfold normalize
    rfl
  rw [same_iff, hform, hform, String.ofList_inj]
  exact ⟨intercalate_comma_injective hn hm, congrArg _⟩

end DistinguishedName

namespace Asn1

open Text DistinguishedName

/-- The characters of a dotted form. Spaced hexadecimal digits stand for numbers that are too
large. -/
def dottedAlphabet : List Char := "0123456789abcdef. ".toList

namespace ObjectIdentifier

theorem mem_dottedAlphabet_joinDots (numbers : List Nat) :
    ∀ c ∈ (joinDots numbers).toList, c ∈ dottedAlphabet := by
  have hdigits : ∀ n : Nat, ∀ c ∈ (toString n).toList, c ∈ dottedAlphabet := by
    intro n c hc
    rw [Nat.toString_eq_ofList_toDigits, String.toList_ofList] at hc
    have hdigit : c.isDigit = true := Nat.isDigit_of_mem_toDigits (by decide) (by decide) hc
    exact forall_isDigit (P := (· ∈ dottedAlphabet)) (by decide) hdigit
  rw [joinDots, String.toList_intercalate]
  refine forall_mem_intercalate (forall_mem_of_all (by decide)) ?_
  intro piece hpiece
  obtain ⟨_, htext, rfl⟩ := List.mem_map.1 hpiece
  obtain ⟨n, _, rfl⟩ := List.mem_map.1 htext
  exact hdigits n

theorem mem_dottedAlphabet_toHex (b : Bytes) : ∀ c ∈ b.toHex.toList, c ∈ dottedAlphabet := by
  have hdigit : ∀ n < 16, Hex.digit n ∈ dottedAlphabet := by decide
  rw [Bytes.toHex, String.toList_ofList]
  induction b with
  | nil =>
      intro c hc
      cases hc
  | cons octet rest ih =>
      have hoctet := octet.toNat_lt
      intro c hc
      rcases List.mem_cons.1 hc with rfl | hmem
      · exact hdigit _ (by omega)
      rcases List.mem_cons.1 hmem with rfl | hmem
      · exact hdigit _ (by omega)
      · exact ih c hmem

theorem mem_dottedAlphabet (o : ObjectIdentifier) :
    ∀ c ∈ o.dotted.toList, c ∈ dottedAlphabet := by
  unfold dotted
  split
  · intro c hc
    cases hc
  · exact forall_mem_of_all (by decide)
  · dsimp only
    split
    · rw [String.toList_intercalate]
      refine forall_mem_intercalate (forall_mem_of_all (by decide)) ?_
      intro piece hpiece
      obtain ⟨_, htext, rfl⟩ := List.mem_map.1 hpiece
      obtain ⟨octet, _, rfl⟩ := List.mem_map.1 htext
      exact mem_dottedAlphabet_toHex [octet]
    · exact mem_dottedAlphabet_joinDots _

end ObjectIdentifier

namespace Attribute

/-- The text of a type by its dotted form. -/
def typeNamed (oid : String) : String :=
  match shortNames.lookup oid with
  | some name => name
  | none => "OID(" ++ oid ++ ")"

theorem typeText_eq (a : Attribute) : a.typeText = typeNamed a.type.dotted := rfl

theorem typeNamed_cases (oid : String) :
    (oid, typeNamed oid) ∈ shortNames ∨ typeNamed oid = "OID(" ++ oid ++ ")" := by
  unfold typeNamed
  split
  · rename_i name hname
    obtain ⟨_, _, hnames, _⟩ := List.lookup_eq_some_iff.1 hname
    left
    rw [hnames]
    simp
  · exact .inr rfl

theorem isTypeText_shortName : ∀ entry ∈ shortNames, IsTypeText entry.2.toList := by
  have hall : ∀ entry ∈ shortNames, entry.2.toList.head?.any (! Text.isBlank ·) = true ∧
      entry.2.toList.getLast?.any (! Text.isBlank ·) = true ∧
      entry.2.toList.all (fun c => decide (c ≠ '=' ∧ isSeparator c = false)) = true ∧
      entry.2.toList.all (fun c => decide (c.toUpper ≠ '=' ∧ c.toUpper ≠ ',')) = true := by
    decide +kernel
  intro entry hentry
  obtain ⟨hhead, hlast, hmem, hupper⟩ := hall entry hentry
  exact ⟨hhead, hlast, forall_mem_of_all hmem, forall_mem_of_all hupper⟩

theorem isTypeText_typeText (a : Attribute) : IsTypeText a.typeText.toList := by
  rw [typeText_eq]
  rcases typeNamed_cases a.type.dotted with hname | htext
  · exact isTypeText_shortName _ hname
  · have hchars : (typeNamed a.type.dotted).toList =
        "OID(".toList ++ (a.type.dotted.toList ++ [')']) := by simp [htext]
    rw [hchars]
    have hmem : ∀ c ∈ "OID(".toList ++ (a.type.dotted.toList ++ [')']),
        (c ≠ '=' ∧ isSeparator c = false) ∧ c.toUpper ≠ '=' ∧ c.toUpper ≠ ',' := by
      have hopen : ∀ c ∈ "OID(".toList,
          (c ≠ '=' ∧ isSeparator c = false) ∧ c.toUpper ≠ '=' ∧ c.toUpper ≠ ',' :=
        forall_mem_of_all (by decide)
      have hinside : ∀ c ∈ dottedAlphabet,
          (c ≠ '=' ∧ isSeparator c = false) ∧ c.toUpper ≠ '=' ∧ c.toUpper ≠ ',' :=
        forall_mem_of_all (by decide)
      intro c hc
      rcases List.mem_append.1 hc with hmem | hmem
      · exact hopen c hmem
      rcases List.mem_append.1 hmem with hmem | hmem
      · exact hinside c (a.type.mem_dottedAlphabet c hmem)
      · obtain rfl := List.mem_singleton.1 hmem
        decide
    refine ⟨rfl, ?_, fun c hc => (hmem c hc).1, fun c hc => (hmem c hc).2⟩
    rw [← List.append_assoc, List.getLast?_concat]
    decide

theorem toUpper_injective_on_dottedAlphabet :
    ∀ c ∈ dottedAlphabet, ∀ d ∈ dottedAlphabet, c.toUpper = d.toUpper → c = d := by
  have hall : dottedAlphabet.all (fun c => dottedAlphabet.all fun d =>
      decide (c.toUpper = d.toUpper → c = d)) = true := by decide
  intro c hc
  exact forall_mem_of_all (List.all_eq_true.1 hall c hc)

/-- Short names differ in more than letter case. -/
theorem shortNames_distinct :
    ∀ entry ∈ shortNames, ∀ other ∈ shortNames,
      entry.2.toList.map Char.toUpper = other.2.toList.map Char.toUpper → entry.1 = other.1 := by
  decide +kernel

theorem bracket_not_mem_shortName :
    ∀ entry ∈ shortNames, '(' ∉ entry.2.toList.map Char.toUpper := by decide +kernel

theorem map_toUpper_injective {a b : List Char} (ha : ∀ c ∈ a, c ∈ dottedAlphabet)
    (hb : ∀ c ∈ b, c ∈ dottedAlphabet) (h : a.map Char.toUpper = b.map Char.toUpper) : a = b := by
  induction a generalizing b with
  | nil => exact (List.map_eq_nil_iff.1 h.symm).symm
  | cons c rest ih =>
      cases b with
      | nil => cases h
      | cons d more =>
          obtain ⟨hc, hrest⟩ := List.forall_mem_cons.1 ha
          obtain ⟨hd, hmore⟩ := List.forall_mem_cons.1 hb
          obtain ⟨hfirst, hlater⟩ := List.cons.inj h
          rw [toUpper_injective_on_dottedAlphabet c hc d hd hfirst, ih hrest hmore hlater]

theorem map_toUpper_bracketed (oid : String) :
    ("OID(" ++ oid ++ ")").toList.map Char.toUpper =
      "OID(".toList ++ (oid.toList.map Char.toUpper ++ [')']) := by
  simp only [String.toList_append, List.map_append, List.append_assoc]
  rfl

/-- The text of a type tells the type, whatever the letter case. -/
theorem dotted_eq_of_typeText {a b : Attribute}
    (h : a.typeText.toList.map Char.toUpper = b.typeText.toList.map Char.toUpper) :
    a.type.dotted = b.type.dotted := by
  rw [typeText_eq, typeText_eq] at h
  have hbracket (oid : String) : '(' ∈ ("OID(" ++ oid ++ ")").toList.map Char.toUpper := by
    rw [map_toUpper_bracketed]
    simp
  rcases typeNamed_cases a.type.dotted with hname | htext
  · rcases typeNamed_cases b.type.dotted with hother | hother
    · exact shortNames_distinct _ hname _ hother h
    · refine absurd ?_ (bracket_not_mem_shortName _ hname)
      rw [h, hother]
      exact hbracket _
  · rcases typeNamed_cases b.type.dotted with hother | hother
    · refine absurd ?_ (bracket_not_mem_shortName _ hother)
      rw [← h, htext]
      exact hbracket _
    · rw [htext, hother, map_toUpper_bracketed, map_toUpper_bracketed] at h
      have hinside := List.append_cancel_right (List.append_cancel_left h)
      exact String.toList_injective (map_toUpper_injective a.type.mem_dottedAlphabet
        b.type.mem_dottedAlphabet hinside)

/-- The value can be read and has no separator in it. -/
def IsPlain (a : Attribute) : Prop :=
  ∃ value, a.valueText? = some value ∧ ∀ c ∈ value.toList, isSeparator c = false

instance (a : Attribute) : Decidable a.IsPlain :=
  decidable_of_iff (a.valueText?.any (·.toList.all (! isSeparator ·)) = true) <| by
    simp [IsPlain, Option.any_eq_true]

/-- The type of an attribute, and its value up to letter case and white space. -/
def upToFormat (a : Attribute) : String × Option (List Char) :=
  (a.type.dotted, a.valueText?.map fun value => normalizeValue value.toList)

/-- The text of an attribute with a readable value. -/
def shown (a : Attribute) : String :=
  a.typeText ++ "=" ++ a.valueText?.getD ""

/-- The normal form of an attribute with a readable value. -/
def piece (a : Attribute) : List Char :=
  normalPiece a.typeText.toList (a.valueText?.getD "").toList

variable {a b : Attribute}

theorem IsPlain.text? (h : a.IsPlain) : a.text? = some a.shown := by
  obtain ⟨value, hvalue, _⟩ := h
  rw [Attribute.text?, shown, hvalue]
  rfl

theorem IsPlain.isSeparator_value (h : a.IsPlain) :
    ∀ c ∈ (a.valueText?.getD "").toList, isSeparator c = false := by
  obtain ⟨value, hvalue, hplain⟩ := h
  rw [hvalue]
  exact hplain

theorem IsPlain.pieces_shown (h : a.IsPlain) : pieces a.shown.toList = [a.piece] := by
  have hchars : a.shown.toList = a.typeText.toList ++ '=' :: (a.valueText?.getD "").toList := by
    simp [shown]
  rw [hchars]
  exact pieces_attribute a.isTypeText_typeText h.isSeparator_value

/-- The normal form tells as much of an attribute as its format leaves. -/
theorem IsPlain.piece_eq_iff (ha : a.IsPlain) (hb : b.IsPlain) :
    a.piece = b.piece ↔ a.upToFormat = b.upToFormat := by
  obtain ⟨value, hvalue, _⟩ := ha
  obtain ⟨other, hother, _⟩ := hb
  simp only [piece, upToFormat, hvalue, hother, Option.getD_some, Option.map_some, Prod.mk.injEq,
    Option.some.injEq]
  constructor
  · intro heq
    obtain ⟨htype, hnormal⟩ :=
      normalPiece_injective (fun c hc => (a.isTypeText_typeText.upper c hc).1)
        (fun c hc => (b.isTypeText_typeText.upper c hc).1) heq
    exact ⟨dotted_eq_of_typeText htype, hnormal⟩
  · rintro ⟨htype, hnormal⟩
    rw [normalPiece, normalPiece, typeText_eq, typeText_eq, htype, hnormal]

end Attribute

namespace Name

/-- Every value can be read, and none has a separator in it. -/
def IsPlain (n : Name) : Prop := ∀ a ∈ n.flatten, a.IsPlain

instance (n : Name) : Decidable n.IsPlain :=
  inferInstanceAs (Decidable (∀ a ∈ n.flatten, a.IsPlain))

/-- The attributes in order, up to letter case and white space in the values. How they are grouped
into relative names does not enter. -/
def upToFormat (n : Name) : List (String × Option (List Char)) :=
  n.flatten.map Attribute.upToFormat

variable {n m : Name}

/-- Two lists have the same images under functions that tell their members apart alike. -/
theorem map_eq_map_congr {α β γ : Type} {f : α → β} {g : α → γ} {as bs : List α}
    (h : ∀ a ∈ as, ∀ b ∈ bs, f a = f b ↔ g a = g b) : as.map f = bs.map f ↔ as.map g = bs.map g := by
  induction as generalizing bs with
  | nil => cases bs <;> simp
  | cons a rest ih =>
      cases bs with
      | nil => simp
      | cons b more =>
          have hfirst := h a List.mem_cons_self b List.mem_cons_self
          have hrest : rest.map f = more.map f ↔ rest.map g = more.map g :=
            ih fun a ha b hb => h a (List.mem_cons_of_mem _ ha) b (List.mem_cons_of_mem _ hb)
          simp only [List.map_cons, List.cons.injEq, hfirst, hrest]

theorem IsPlain.text (h : n.IsPlain) :
    n.text = ", ".intercalate (n.map fun as => " + ".intercalate (as.map Attribute.shown)) := by
  have hrelatives : n.mapM (fun as => (as.mapM Attribute.text?).map (" + ".intercalate ·)) =
      some (n.map fun as => " + ".intercalate (as.map Attribute.shown)) := by
    refine Der.mapM_eq_some_map fun as has => ?_
    have hall : as.mapM Attribute.text? = some (as.map Attribute.shown) :=
      Der.mapM_eq_some_map fun a ha => (h a (List.mem_flatten.2 ⟨as, has, ha⟩)).text?
    rw [hall, Option.map_some]
  rw [Name.text, hrelatives]

/-- What a plain name is taken apart into is what it was printed from. -/
theorem IsPlain.pieces_text (h : n.IsPlain) :
    pieces n.text.toList = n.flatten.map Attribute.piece := by
  have hrelative : ∀ as ∈ n,
      pieces (" + ".intercalate (as.map Attribute.shown)).toList = as.map Attribute.piece := by
    intro as has
    have hparts : ∀ a ∈ as, pieces a.shown.toList = [a.piece] := fun a ha =>
      (h a (List.mem_flatten.2 ⟨as, has, ha⟩)).pieces_shown
    have hsingle : as.map Attribute.piece = (as.map fun a => [a.piece]).flatten := by
      rw [List.map_eq_flatMap, List.flatMap_def]
    rw [String.toList_intercalate, List.map_map, hsingle]
    exact pieces_intercalate isJoin_plus hparts
  rw [h.text, String.toList_intercalate, List.map_map, List.map_flatten]
  exact pieces_intercalate isJoin_comma hrelative

theorem IsPlain.areApart (h : n.IsPlain) : AreApart (pieces n.text.toList) := by
  intro piece hpiece
  rw [h.pieces_text] at hpiece
  obtain ⟨a, ha, rfl⟩ := List.mem_map.1 hpiece
  refine ⟨by simp [Attribute.piece, normalPiece], ?_⟩
  exact comma_not_mem_normalPiece (fun c hc => (a.isTypeText_typeText.upper c hc).2)
    (h a ha).isSeparator_value

/-- Plain names compare equal exactly if they have the same attributes up to format. -/
theorem IsPlain.same_text_iff (hn : n.IsPlain) (hm : m.IsPlain) :
    same n.text m.text = true ↔ n.upToFormat = m.upToFormat := by
  rw [same_iff_pieces_eq hn.areApart hm.areApart, hn.pieces_text, hm.pieces_text]
  exact map_eq_map_congr fun a ha b hb => (hn a ha).piece_eq_iff (hm b hb)

end Name

end Asn1

end Mrtd
