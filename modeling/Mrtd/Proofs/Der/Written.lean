import Mrtd.Der.Algorithm
import Mrtd.Proofs.Der.SetOrder

/-!
Reading what was written. What a constructed element contains is short enough to be read back if the
whole is, so its fields are read from the elements that it was put together of. One equation for each
reader of a field says what it takes from the front of a list of elements; with them a reader is run
over the fields that a writer puts down.
-/

namespace Mrtd.Der

variable {α β : Type} {e : Element} {es : List Element} {tag : UInt8}

theorem Element.length_content_le_encode : e.content.length ≤ e.encode.length := by
  rw [Element.encode, List.length_append]
  exact Nat.le_add_left ..

/-- What is contained in an element is not longer than the element. -/
theorem length_content_le_encodeAll (h : e ∈ es) : e.content.length ≤ (encodeAll es).length := by
  obtain ⟨before, after, rfl⟩ := List.append_of_mem h
  have hpart : e.content.length ≤ e.encode.length := Element.length_content_le_encode
  simp only [encodeAll, List.flatMap_append, List.flatMap_cons, List.length_append]
  omega

/-- What is contained in an element that can be read back has a length that can be written. -/
theorem Element.IsReadable.of_mem (h : (construct tag es).IsReadable) (hmem : e ∈ es)
    (htag : isTag e.tag = true) : e.IsReadable :=
  ⟨htag, Nat.le_trans (length_content_le_encodeAll hmem) h.2⟩

/-- The same for all that is contained at once. -/
theorem Element.IsReadable.forall_mem (h : (construct tag es).IsReadable)
    (htags : ∀ e ∈ es, isTag e.tag = true) : ∀ e ∈ es, e.IsReadable :=
  fun e he => h.of_mem he (htags e he)

/-- The same for elements that were written one for each member of a list. -/
theorem Element.IsReadable.forall_mem_map {write : α → Element} {as : List α}
    (h : (construct tag (as.map write)).IsReadable) (htag : ∀ a, isTag (write a).tag = true) :
    ∀ e ∈ as.map write, e.IsReadable := by
  refine h.forall_mem fun e he => ?_
  obtain ⟨a, _, rfl⟩ := List.mem_map.1 he
  exact htag a

theorem decode?_encode (h : e.IsReadable) : decode? e.encode = some e := by
  have hread := readElement_encode h.1 h.2 []
  rw [List.append_nil] at hread
  rw [decode?, hread]

/-- An octet string is read as an element exactly if it is its encoding. -/
theorem decode?_eq_some_iff {b : Bytes} : decode? b = some e ↔ b = e.encode ∧ e.IsReadable := by
  constructor
  · intro h
    refine ⟨encode_of_decode? h, ?_⟩
    unfold decode? at h
    split at h
    · rename_i hread
      obtain rfl := Option.some.inj h
      exact (eq_append_of_readElement hread).2
    · cases h
  · rintro ⟨rfl, h⟩
    exact decode?_encode h

namespace Fields

variable {f : Element → Option α} {number : Nat}

theorem bind_apply (x : Fields α) (g : α → Fields β) :
    (x >>= g) es = (x es).bind fun taken => g taken.1 taken.2 := rfl

theorem read_cons : read f (e :: es) = (f e).map fun a => (a, es) := by
  rw [read, bind_apply, next, Option.bind_some]
  dsimp only
  cases f e <;> rfl

theorem read_bind_cons (g : α → Fields β) :
    (read f >>= g) (e :: es) = (f e).bind fun a => g a es := by
  rw [bind_apply, read_cons]
  cases f e <;> rfl

/-- The last field, which may be missing. -/
theorem next?_bind_toList (last : Option Element) (g : Option Element → Fields β) :
    (next? >>= g) last.toList = g last [] := by
  cases last <;> rfl

theorem readIf_bind_nil (accepts : UInt8 → Bool) (g : Option α → Fields β) :
    (readIf accepts f >>= g) [] = g none [] := rfl

theorem readIf_bind_cons {accepts : UInt8 → Bool} (h : accepts e.tag = true)
    (g : Option α → Fields β) :
    (readIf accepts f >>= g) (e :: es) = (f e).bind fun a => g (some a) es := by
  rw [bind_apply, readIf, if_pos h]
  cases f e <;> rfl

/-- A field under the context number that is asked for. -/
theorem readContext_bind_cons (hnumber : number < 31) (htag : e.tag = Tag.constructedContext number)
    (g : Option α → Fields β) :
    (readContext number f >>= g) (e :: es) = (f e).bind fun a => g (some a) es := by
  have hoctet : e.tag.toNat = 0xA0 + number := by
    rw [htag, Tag.constructedContext, UInt8.toNat_ofNat']
    omega
  have hfield : contextField number (e :: es) = some (some e, es) := by
    rw [contextField, if_pos (by omega), if_pos (by omega)]
  rw [bind_apply, readContext, bind_apply, hfield, Option.bind_some]
  dsimp only
  cases f e <;> rfl

/-- The next field, if there is one, is not under a context number. -/
theorem readContext_bind_absent (h : ∀ e ∈ es.head?, e.tag.toNat < 0x80)
    (g : Option α → Fields β) : (readContext number f >>= g) es = g none es := by
  have hfield : contextField number es = some (none, es) := by
    cases es with
    | nil => rfl
    | cons e rest =>
        have htag : e.tag.toNat < 0x80 := h e rfl
        rw [contextField, if_neg (by omega)]
  rw [bind_apply, readContext, bind_apply, hfield]
  rfl

end Fields

/-- The fields of what was put together are read from its parts. -/
theorem fieldsOf?_construct {fields : Fields α} {value : Option α} (h : ∀ e ∈ es, e.IsReadable)
    (hfields : fields es = value.map fun a => (a, [])) :
    fieldsOf? tag fields (construct tag es) = value := by
  have helements : elements? (encodeAll es) = some es := elements?_encodeAll h
  cases value with
  | none => simp [fieldsOf?, Fields.whole?, construct, helements, hfields]
  | some a => simp [fieldsOf?, Fields.whole?, construct, helements, hfields]

theorem membersOf?_construct {member : Element → Option α} (h : ∀ e ∈ es, e.IsReadable) :
    membersOf? tag member (construct tag es) = es.mapM member := by
  have helements : elements? (encodeAll es) = some es := elements?_encodeAll h
  simp [membersOf?, construct, helements]

/-- A list is read back if each of its members is. -/
theorem membersOf?_construct_map {write : α → Element} {read : Element → Option α} {as : List α}
    (h : (construct tag (as.map write)).IsReadable) (htag : ∀ a, isTag (write a).tag = true)
    (hread : ∀ a ∈ as, (write a).IsReadable → read (write a) = some a) :
    membersOf? tag read (construct tag (as.map write)) = some as := by
  have hmembers := h.forall_mem_map htag
  have hall : as.mapM (read ∘ write) = some (as.map id) :=
    mapM_eq_some_map fun a ha => hread a ha (hmembers _ (List.mem_map_of_mem ha))
  rw [membersOf?_construct hmembers, List.mapM_map, hall, List.map_id]

/-- What is read back need not be what was written, as long as it relates to that. -/
theorem exists_mapM_map {write : α → Element} {read : Element → Option β} {R : β → α → Prop}
    {as : List α} (h : ∀ a ∈ as, ∃ b, read (write a) = some b ∧ R b a) :
    ∃ bs, (as.map write).mapM read = some bs ∧ List.Forall₂ R bs as := by
  induction as with
  | nil => exact ⟨[], rfl, .nil⟩
  | cons a rest ih =>
      obtain ⟨⟨b, hread, hfirst⟩, hrest⟩ := List.forall_mem_cons.1 h
      obtain ⟨bs, hlater, hall⟩ := ih hrest
      refine ⟨b :: bs, ?_, .cons hfirst hall⟩
      rw [List.map_cons, List.mapM_cons, hread, hlater]
      rfl

theorem exists_of_mem_left {R : β → α → Prop} {as : List α} {bs : List β} {b : β}
    (h : List.Forall₂ R bs as) (hb : b ∈ bs) : ∃ a ∈ as, R b a := by
  induction h with
  | nil => cases hb
  | cons hfirst _ ih =>
      rcases List.mem_cons.1 hb with rfl | hmem
      · exact ⟨_, List.mem_cons_self, hfirst⟩
      · obtain ⟨a, ha, hrelated⟩ := ih hmem
        exact ⟨a, List.mem_cons_of_mem _ ha, hrelated⟩

theorem pairwise_of_forall₂ {R : β → α → Prop} {P : α → α → Prop} {Q : β → β → Prop}
    {as : List α} {bs : List β} (h : List.Forall₂ R bs as) (hpairs : as.Pairwise P)
    (hkeep : ∀ b a b' a', R b a → R b' a' → P a a' → Q b b') : bs.Pairwise Q := by
  induction h with
  | nil => exact .nil
  | cons hfirst hrest ih =>
      rename_i b a bs as
      obtain ⟨hhead, htail⟩ := List.pairwise_cons.1 hpairs
      refine List.pairwise_cons.2 ⟨fun b' hb' => ?_, ih htail⟩
      obtain ⟨a', ha', hlater⟩ := exists_of_mem_left hrest hb'
      exact hkeep b a b' a' hfirst hlater (hhead a' ha')

theorem mapM_some : es.mapM some = some es := by
  have hread : es.mapM some = some (es.map id) := mapM_eq_some_map fun _ _ => rfl
  rw [hread, List.map_id]

theorem construct_injective {forms : List Element} (hforms : ∀ e ∈ forms, e.IsReadable)
    (hes : ∀ e ∈ es, e.IsReadable) (h : construct tag forms = construct tag es) : forms = es := by
  have hread : (construct tag forms).children = forms := children_construct hforms
  rw [h, children_construct hes] at hread
  exact hread.symm

section Sets

variable {order : α → α → Ordering} {member : Element → Option α} {members sorted : List α}

theorem eq_of_compareBytes {a b : Bytes} (h : compareBytes a b = .eq) : a = b := by
  induction a generalizing b with
  | nil =>
      cases b with
      | nil => rfl
      | cons _ _ => cases h
  | cons first rest ih =>
      cases b with
      | nil => cases h
      | cons other more =>
          obtain ⟨hfirst, hrest⟩ := Ordering.then_eq_eq.1 h
          rw [Std.LawfulEqCmp.eq_of_compare hfirst, ih hrest]

theorem Element.eq_of_order {a b : Element} (h : Element.order a b = .eq) : a = b := by
  obtain ⟨hheader, hcontent⟩ := Ordering.then_eq_eq.1 h
  obtain ⟨htag, _⟩ := Ordering.then_eq_eq.1 hheader
  obtain ⟨tag, content⟩ := a
  obtain rfl := Std.LawfulEqCmp.eq_of_compare htag
  obtain rfl := eq_of_compareBytes hcontent
  rfl

theorem exists_insertMember {a : α} (h : ∀ b ∈ sorted, order b a ≠ .eq) :
    ∃ inserted, insertMember order a sorted = some inserted := by
  induction sorted with
  | nil => exact ⟨[a], rfl⟩
  | cons b rest ih =>
      obtain ⟨hfirst, hrest⟩ := List.forall_mem_cons.1 h
      obtain ⟨inserted, hinserted⟩ := ih hrest
      rw [insertMember]
      cases hcompare : order b a with
      | lt => exact ⟨_, rfl⟩
      | eq => exact absurd hcompare hfirst
      | gt => exact ⟨b :: inserted, by rw [hinserted]; rfl⟩

/-- Members of which no two are equal can be sorted. -/
theorem exists_sortMembers (h : members.Pairwise fun a b => order a b ≠ .eq) :
    ∃ sorted, sortMembers order members = some sorted := by
  suffices hfold : ∀ start, (∀ b ∈ start, ∀ a ∈ members, order b a ≠ .eq) →
      ∃ result, members.foldlM (fun sorted a => insertMember order a sorted) start =
        some result by
    obtain ⟨result, hresult⟩ := hfold [] (by simp)
    exact ⟨result.reverse, by rw [sortMembers, hresult, Option.map_some]⟩
  induction members with
  | nil => exact fun start _ => ⟨start, rfl⟩
  | cons a rest ih =>
      intro start hstart
      obtain ⟨hfirst, hrest⟩ := List.pairwise_cons.1 h
      obtain ⟨inserted, hinserted⟩ := exists_insertMember fun b hb =>
        hstart b hb a List.mem_cons_self
      obtain ⟨result, hresult⟩ := ih hrest inserted fun b hb c hc => by
        rcases List.mem_cons.1 ((insertMember_perm hinserted).subset hb) with rfl | hmem
        · exact hfirst c hc
        · exact hstart b hmem c (List.mem_cons_of_mem a hc)
      exact ⟨result, by rw [List.foldlM_cons, hinserted]; exact hresult⟩

/-- The members of a SET are read from the elements that it was put together of, and sorted. -/
theorem setOf?_construct (h : ∀ e ∈ es, e.IsReadable) (hmembers : es.mapM member = some members)
    (hsorted : sortMembers order members = some sorted) :
    setOf? tag member order (construct tag es) = some sorted := by
  rw [setOf?, membersOf?_construct h, hmembers]
  exact hsorted

/-- A SET that was written in order is read back if each of its members is. -/
theorem setOf?_construct_map {write : α → Element} {as : List α}
    (h : (construct tag (as.map write)).IsReadable) (htag : ∀ a, isTag (write a).tag = true)
    (hread : ∀ a ∈ as, (write a).IsReadable → member (write a) = some a)
    (hascends : Ascends order as) :
    setOf? tag member order (construct tag (as.map write)) = some as := by
  rw [setOf?, membersOf?_construct_map h htag hread]
  exact sortMembers_of_ascends hascends

end Sets

theorem octetOfElement?_octetElement {n : Nat} (h : n < 256) :
    octetOfElement? (octetElement n) = some n := by
  have hn : n % 256 = n := by omega
  by_cases hsmall : n < 0x80
  · simp [octetOfElement?, octetElement, octetContent, octet?, hsmall, hn]
  · simp [octetOfElement?, octetElement, octetContent, octet?, hsmall, hn]

theorem Oid.ofElement?_element (o : Asn1.ObjectIdentifier) :
    Oid.ofElement? (Oid.element o) = if Oid.isPermitted o then some o else none := by
  simp [Oid.ofElement?, Oid.element]

namespace Algorithm

variable {a : Algorithm}

/-- An algorithm is read back if its identifier is permitted, and is not read otherwise. -/
theorem ofElement?_element (h : a.element.IsReadable)
    (hparameters : ∀ e ∈ a.parameters, isTag e.tag = true) :
    ofElement? a.element = if Oid.isPermitted a.oid then some a else none := by
  have htags : ∀ e ∈ Oid.element a.oid :: a.parameters.toList, isTag e.tag = true := by
    intro e he
    rcases List.mem_cons.1 he with rfl | hmem
    · rfl
    · exact hparameters e (Option.mem_toList.1 hmem)
  refine fieldsOf?_construct (h.forall_mem htags) ?_
  rw [Fields.read_bind_cons, Oid.ofElement?_element]
  split
  · exact Fields.next?_bind_toList a.parameters _
  · rfl

end Algorithm

end Mrtd.Der
