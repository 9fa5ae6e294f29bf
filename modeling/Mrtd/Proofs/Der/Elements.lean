import Mathlib.Algebra.BigOperators.Group.List.Basic
import Mrtd.Der.Fields

/-!
Elements that are read back. What was read as elements is their encodings one after the other, and
elements that are put together are found again when the whole is read. Reading fails only where
something is left that does not begin with an element. Leaving elements out and making others
shorter leaves the rest readable.
-/

namespace Mrtd.Der

variable {e form : Element} {es forms : List Element} {tag : UInt8}

namespace Element

/-- The tag is known and the length can be written, so the element can be read back. -/
def IsReadable (e : Element) : Prop :=
  isTag e.tag = true ∧ e.content.length ≤ maxLength

/-- The elements that an element consists of. -/
def children (e : Element) : List Element :=
  (elements? e.content).getD []

theorem children_of_elements? (h : elements? e.content = some es) : e.children = es := by
  rw [children, h, Option.getD_some]

theorem encode_injective {a b : Element} (ha : a.IsReadable) (hb : b.IsReadable)
    (h : a.encode = b.encode) : a = b := by
  have hreada := readElement_encode ha.1 ha.2 []
  have hreadb := readElement_encode hb.1 hb.2 []
  rw [h, hreadb] at hreada
  exact (congrArg Prod.fst (Option.some.inj hreada)).symm

end Element

open Element

theorem encode_of_decode? {b : Bytes} {e : Element} (h : decode? b = some e) : b = e.encode := by
  unfold decode? at h
  split at h
  · rename_i read hread
    obtain rfl := Option.some.inj h
    simpa using (eq_append_of_readElement hread).1
  · cases h

/-- An encoding tells the contents. -/
theorem content_eq_of_encode_eq {a b : Bytes} (htag : isTag tag = true)
    (ha : a.length ≤ maxLength) (hb : b.length ≤ maxLength)
    (h : Element.encode ⟨tag, a⟩ = Element.encode ⟨tag, b⟩) : a = b :=
  congrArg Element.content (encode_injective ⟨htag, ha⟩ ⟨htag, hb⟩ h)

theorem encodeAll_cons : encodeAll (e :: es) = e.encode ++ encodeAll es :=
  List.flatMap_cons

theorem elementsWithin_encodeAll {bound : Nat} (hbound : es.length ≤ bound)
    (h : ∀ e ∈ es, e.IsReadable) : elementsWithin bound (encodeAll es) = some es := by
  induction es generalizing bound with
  | nil => cases bound <;> rfl
  | cons e rest ih =>
      obtain ⟨hreadable, hrest⟩ := List.forall_mem_cons.1 h
      cases bound with
      | zero => cases hbound
      | succ bound =>
          have hread : readElement (e.encode ++ encodeAll rest) = some (e, encodeAll rest) :=
            readElement_encode hreadable.1 hreadable.2 _
          have hlater := ih (Nat.le_of_succ_le_succ hbound) hrest
          have hcons : e.encode ++ encodeAll rest =
            e.tag :: (lengthOctets e.content.length ++ e.content ++ encodeAll rest) := rfl
          rw [encodeAll_cons, hcons, elementsWithin, ← hcons, hread]
          · exact congrArg (Option.map (e :: ·)) hlater
          · simp

theorem length_le_encodeAll : es.length ≤ (encodeAll es).length := by
  induction es with
  | nil => exact Nat.zero_le _
  | cons e rest ih =>
      have hfirst : 1 ≤ e.encode.length := by simp [Element.encode]
      rw [encodeAll_cons, List.length_append, List.length_cons]
      omega

/-- Elements are read back from their encodings. -/
theorem elements?_encodeAll (h : ∀ e ∈ es, e.IsReadable) : elements? (encodeAll es) = some es :=
  elementsWithin_encodeAll length_le_encodeAll h

theorem elementsWithin_eq_some {bound : Nat} {b : Bytes} (h : elementsWithin bound b = some es) :
    encodeAll es = b ∧ ∀ e ∈ es, e.IsReadable := by
  induction bound generalizing b es with
  | zero =>
      cases b with
      | nil =>
          obtain rfl := Option.some.inj h
          exact ⟨rfl, by simp⟩
      | cons _ _ => cases h
  | succ bound ih =>
      cases b with
      | nil =>
          obtain rfl := Option.some.inj h
          exact ⟨rfl, by simp⟩
      | cons first tail =>
          rw [elementsWithin] at h
          split at h
          · rename_i e rest hread
            obtain ⟨others, hothers, rfl⟩ := Option.map_eq_some_iff.1 h
            obtain ⟨hoctets, hreadable⟩ := eq_append_of_readElement hread
            obtain ⟨hrest, hall⟩ := ih hothers
            refine ⟨?_, List.forall_mem_cons.2 ⟨hreadable, hall⟩⟩
            rw [hoctets, encodeAll_cons, hrest]
          · cases h
          · simp

/-- An octet string is read as elements exactly if it consists of their encodings, and each of them
can be read back. -/
theorem elements?_eq_some_iff {b : Bytes} :
    elements? b = some es ↔ encodeAll es = b ∧ ∀ e ∈ es, e.IsReadable := by
  constructor
  · exact elementsWithin_eq_some
  · rintro ⟨rfl, hreadable⟩
    exact elements?_encodeAll hreadable

theorem encodeAll_of_elements? {b : Bytes} (h : elements? b = some es) : encodeAll es = b :=
  (elements?_eq_some_iff.1 h).1

theorem isReadable_of_elements? {b : Bytes} (h : elements? b = some es) :
    ∀ e ∈ es, e.IsReadable :=
  (elements?_eq_some_iff.1 h).2

theorem elements?_nil : elements? [] = some [] := rfl

/-- One round of the loop: the element at the front is taken, and the rest is read like the whole. -/
theorem elements?_of_readElement {b rest : Bytes} (h : readElement b = some (e, rest)) :
    elements? b = (elements? rest).map (e :: ·) := by
  obtain ⟨rfl, hreadable⟩ := eq_append_of_readElement h
  apply Option.ext
  intro es
  rw [elements?_eq_some_iff, Option.map_eq_some_iff]
  constructor
  · rintro ⟨hoctets, hall⟩
    cases es with
    | nil => simp [encodeAll, Element.encode] at hoctets
    | cons first others =>
        obtain ⟨hfirst, hothers⟩ := List.forall_mem_cons.1 hall
        rw [encodeAll_cons] at hoctets
        have hread := readElement_encode hfirst.1 hfirst.2 (encodeAll others)
        rw [hoctets, h] at hread
        obtain ⟨rfl, rfl⟩ := Prod.mk.inj (Option.some.inj hread)
        exact ⟨others, elements?_encodeAll hothers, rfl⟩
  · rintro ⟨others, hothers, rfl⟩
    obtain ⟨rfl, hall⟩ := elements?_eq_some_iff.1 hothers
    exact ⟨encodeAll_cons, List.forall_mem_cons.2 ⟨hreadable, hall⟩⟩

theorem elements?_of_readElement_none {b : Bytes} (hb : b ≠ []) (h : readElement b = none) :
    elements? b = none := by
  refine Option.eq_none_iff_forall_ne_some.2 fun es hes => ?_
  obtain ⟨rfl, hall⟩ := elements?_eq_some_iff.1 hes
  cases es with
  | nil => exact hb rfl
  | cons first others =>
      obtain ⟨hfirst, _⟩ := List.forall_mem_cons.1 hall
      rw [encodeAll_cons, readElement_encode hfirst.1 hfirst.2] at h
      cases h

theorem readElement_eq_none_iff {b : Bytes} :
    readElement b = none ↔ ∀ (e : Element) rest, e.IsReadable → b ≠ e.encode ++ rest := by
  constructor
  · rintro h e rest hreadable rfl
    rw [readElement_encode hreadable.1 hreadable.2] at h
    cases h
  · intro h
    refine Option.eq_none_iff_forall_ne_some.2 fun read hread => ?_
    obtain ⟨hoctets, hreadable⟩ := eq_append_of_readElement hread
    exact h read.1 read.2 hreadable hoctets

/-- Elements stand one after the other at the front, and what follows them is neither the end nor
begins with another. -/
structure BreaksOff (b : Bytes) (es : List Element) (rest : Bytes) : Prop where
  octets : encodeAll es ++ rest = b
  readable : ∀ e ∈ es, e.IsReadable
  left : rest ≠ []
  stuck : ∀ (e : Element) after, e.IsReadable → rest ≠ e.encode ++ after

/-- Reading fails exactly if it breaks off somewhere. -/
theorem elements?_eq_none_iff {b : Bytes} :
    elements? b = none ↔ ∃ es rest, BreaksOff b es rest := by
  constructor
  · intro h
    -- What is left becomes shorter with each element that is read.
    induction hlength : b.length using Nat.strongRecOn generalizing b with
    | ind length ih =>
        by_cases hb : b = []
        · rw [hb, elements?_nil] at h
          cases h
        · cases hread : readElement b with
          | none =>
              exact ⟨[], b, rfl, List.forall_mem_nil _, hb, readElement_eq_none_iff.1 hread⟩
          | some read =>
              obtain ⟨e, rest⟩ := read
              obtain ⟨hoctets, hreadable⟩ := eq_append_of_readElement hread
              have hrest : elements? rest = none := by
                rw [elements?_of_readElement hread] at h
                exact Option.map_eq_none_iff.1 h
              obtain ⟨es, behind, hbreak⟩ :=
                ih rest.length (hlength ▸ length_lt_of_readElement hread) hrest rfl
              refine ⟨e :: es, behind, ?_, ?_, hbreak.left, hbreak.stuck⟩
              · rw [encodeAll_cons, List.append_assoc, hbreak.octets, ← hoctets]
              · exact List.forall_mem_cons.2 ⟨hreadable, hbreak.readable⟩
  · rintro ⟨es, rest, rfl, hreadable, hrest, hstuck⟩
    induction es with
    | nil => exact elements?_of_readElement_none hrest (readElement_eq_none_iff.2 hstuck)
    | cons e es ih =>
        obtain ⟨hfirst, hothers⟩ := List.forall_mem_cons.1 hreadable
        have hread : readElement (encodeAll (e :: es) ++ rest) = some (e, encodeAll es ++ rest) := by
          rw [encodeAll_cons, List.append_assoc]
          exact readElement_encode hfirst.1 hfirst.2 _
        rw [elements?_of_readElement hread, ih hothers]
        rfl

theorem construct_of_elements? (htag : e.tag = tag) (h : elements? e.content = some es) :
    construct tag es = e := by
  rw [construct, encodeAll_of_elements? h, ← htag]

theorem children_construct (h : ∀ e ∈ es, e.IsReadable) : (construct tag es).children = es :=
  children_of_elements? (elements?_encodeAll h)

theorem exists_of_mem_children {parent : Element} (h : e ∈ parent.children) :
    ∃ es, elements? parent.content = some es ∧ e ∈ es := by
  unfold children at h
  cases helements : elements? parent.content with
  | none => simp [helements] at h
  | some es =>
      rw [helements, Option.getD_some] at h
      exact ⟨es, rfl, h⟩

theorem isReadable_of_mem_children {parent : Element} (h : e ∈ parent.children) :
    e.IsReadable := by
  obtain ⟨es, helements, hmem⟩ := exists_of_mem_children h
  exact isReadable_of_elements? helements e hmem

theorem content_infix_encode : e.content <:+: e.encode :=
  (List.suffix_append _ _).isInfix

theorem encode_infix_construct (h : e ∈ es) : e.encode <:+: (construct tag es).encode := by
  obtain ⟨before, after, rfl⟩ := List.append_of_mem h
  refine List.IsInfix.trans ?_ content_infix_encode
  exact ⟨encodeAll before, encodeAll after, by simp [construct, encodeAll]⟩

/-- What an element consists of is found in its encoding. -/
theorem encode_infix_of_mem_children {parent : Element} (h : e ∈ parent.children) :
    e.encode <:+: parent.encode := by
  obtain ⟨es, helements, hmem⟩ := exists_of_mem_children h
  rw [← construct_of_elements? rfl helements]
  exact encode_infix_construct hmem

/-- A form has the tag of its element and is not longer. -/
structure Shrunk (form e : Element) : Prop where
  tag : form.tag = e.tag
  length : form.content.length ≤ e.content.length

theorem Shrunk.refl (e : Element) : Shrunk e e := ⟨rfl, Nat.le_refl _⟩

theorem Shrunk.isReadable (h : Shrunk form e) (he : e.IsReadable) : form.IsReadable :=
  ⟨h.tag ▸ he.1, Nat.le_trans h.length he.2⟩

theorem length_lengthOctets_le {m n : Nat} (h : m ≤ n) :
    (lengthOctets m).length ≤ (lengthOctets n).length := by
  unfold lengthOctets
  repeat' split
  all_goals first | omega | simp

theorem Shrunk.length_encode_le (h : Shrunk form e) : form.encode.length ≤ e.encode.length := by
  have hoctets := length_lengthOctets_le h.length
  have hcontent := h.length
  simp only [Element.encode, List.cons_append, List.length_cons, List.length_append]
  omega

/-- Some elements are what remains of others: each is one of those, shrunk, and the whole is not
longer. -/
structure Remain (forms es : List Element) : Prop where
  shrunk : ∀ form ∈ forms, ∃ e ∈ es, Shrunk form e
  length : (encodeAll forms).length ≤ (encodeAll es).length

namespace Remain

theorem nil : Remain [] [] := ⟨by simp, Nat.le_refl _⟩

theorem cons (hfirst : Shrunk form e) (hrest : Remain forms es) :
    Remain (form :: forms) (e :: es) := by
  refine ⟨List.forall_mem_cons.2 ⟨⟨e, List.mem_cons_self, hfirst⟩, ?_⟩, ?_⟩
  · intro later hlater
    obtain ⟨e', he', hshrunk⟩ := hrest.shrunk later hlater
    exact ⟨e', List.mem_cons_of_mem e he', hshrunk⟩
  · rw [encodeAll_cons, encodeAll_cons, List.length_append, List.length_append]
    exact Nat.add_le_add hfirst.length_encode_le hrest.length

/-- Elements in front of the others may be left out. -/
theorem of_suffix {rest : List Element} (h : Remain forms rest) (hsuffix : rest <:+ es) :
    Remain forms es := by
  obtain ⟨front, rfl⟩ := hsuffix
  refine ⟨fun form hform => ?_, ?_⟩
  · obtain ⟨e, he, hshrunk⟩ := h.shrunk form hform
    exact ⟨e, List.mem_append_right front he, hshrunk⟩
  · rw [encodeAll, encodeAll, List.flatMap_append, List.length_append]
    exact Nat.le_trans h.length (Nat.le_add_left ..)

theorem of_perm (h : forms.Perm es) : Remain forms es := by
  refine ⟨fun form hform => ⟨form, h.subset hform, .refl form⟩, ?_⟩
  rw [encodeAll, encodeAll, List.length_flatMap, List.length_flatMap]
  exact Nat.le_of_eq (h.map _).sum_eq

theorem refl (es : List Element) : Remain es es :=
  of_perm (.refl es)

theorem isReadable (h : Remain forms es) (hes : ∀ e ∈ es, e.IsReadable) :
    ∀ form ∈ forms, form.IsReadable := by
  intro form hform
  obtain ⟨e, he, hshrunk⟩ := h.shrunk form hform
  exact hshrunk.isReadable (hes e he)

end Remain

/-- What remains of an element is shorter, and it is found again in what is put together of it. -/
theorem shrunk_construct (htag : e.tag = tag) (h : elements? e.content = some es)
    (hremain : Remain forms es) :
    Shrunk (construct tag forms) e ∧ (construct tag forms).children = forms := by
  refine ⟨⟨htag.symm, ?_⟩, children_construct (hremain.isReadable (isReadable_of_elements? h))⟩
  rw [← encodeAll_of_elements? h]
  exact hremain.length

end Mrtd.Der
