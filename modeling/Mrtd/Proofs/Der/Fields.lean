import Mathlib.Data.List.Forall2
import Mathlib.Data.List.Nodup
import Mrtd.Proofs.Der.Elements

/-!
What readers of fields consume. A reader that succeeds leaves an end of the list that it was given,
so a reader that leaves nothing has read the last field last. The members of a list are read from its
elements one by one.
-/

namespace Mrtd.Der

variable {α β : Type}

namespace Fields

variable {es rest : List Element}

theorem bind_eq_some_iff {x : Fields α} {f : α → Fields β} {b : β} :
    (x >>= f) es = some (b, rest) ↔ ∃ a left, x es = some (a, left) ∧ f a left = some (b, rest) := by
  simp [bind, StateT.bind, Option.bind_eq_some_iff]

theorem pure_eq_some_iff {a b : α} :
    (pure a : Fields α) es = some (b, rest) ↔ a = b ∧ es = rest := by
  constructor
  · intro h
    exact Prod.mk.inj (Option.some.inj h)
  · rintro ⟨rfl, rfl⟩
    rfl

theorem next_eq_some_iff {e : Element} : next es = some (e, rest) ↔ es = e :: rest := by
  cases es <;> simp [next]

theorem read_eq_some_iff {f : Element → Option α} {a : α} :
    read f es = some (a, rest) ↔ ∃ e, es = e :: rest ∧ f e = some a := by
  rw [read, bind_eq_some_iff]
  constructor
  · rintro ⟨e, left, hnext, hvalue⟩
    cases hf : f e with
    | none => simp [hf] at hvalue
    | some value =>
        simp only [hf] at hvalue
        obtain ⟨rfl, rfl⟩ := pure_eq_some_iff.1 hvalue
        exact ⟨e, next_eq_some_iff.1 hnext, hf⟩
  · rintro ⟨e, hes, hvalue⟩
    refine ⟨e, rest, next_eq_some_iff.2 hes, ?_⟩
    simp only [hvalue]
    exact pure_eq_some_iff.2 ⟨rfl, rfl⟩

/-- A field is read before the rest is. -/
theorem read_bind_eq_some_iff {f : Element → Option α} {g : α → Fields β} {b : β} :
    (read f >>= g) es = some (b, rest) ↔
      ∃ e a left, es = e :: left ∧ f e = some a ∧ g a left = some (b, rest) := by
  rw [bind_eq_some_iff]
  constructor
  · rintro ⟨a, left, hread, hrest⟩
    obtain ⟨e, hes, hvalue⟩ := read_eq_some_iff.1 hread
    exact ⟨e, a, left, hes, hvalue, hrest⟩
  · rintro ⟨e, a, left, hes, hvalue, hrest⟩
    exact ⟨a, left, read_eq_some_iff.2 ⟨e, hes, hvalue⟩, hrest⟩

theorem next?_eq_some {found : Option Element} (h : next? es = some (found, rest)) :
    es = found.toList ++ rest := by
  cases es with
  | nil =>
      obtain ⟨rfl, rfl⟩ := Prod.mk.inj (Option.some.inj h)
      rfl
  | cons e left =>
      obtain ⟨rfl, rfl⟩ := Prod.mk.inj (Option.some.inj h)
      rfl

/-- A field that may be missing is missing, or it is the next one. -/
theorem readIf_cases {accepts : UInt8 → Bool} {f : Element → Option α} {value : Option α}
    (h : readIf accepts f es = some (value, rest)) :
    (value = none ∧ es = rest) ∨
      ∃ e a, value = some a ∧ es = e :: rest ∧ accepts e.tag = true ∧ f e = some a := by
  cases es with
  | nil =>
      obtain ⟨rfl, rfl⟩ := Prod.mk.inj (Option.some.inj h)
      exact .inl ⟨rfl, rfl⟩
  | cons e left =>
      rw [readIf] at h
      split at h
      · rename_i haccepts
        obtain ⟨a, ha, heq⟩ := Option.map_eq_some_iff.1 h
        obtain ⟨rfl, rfl⟩ := Prod.mk.inj heq
        exact .inr ⟨e, a, rfl, rfl, haccepts, ha⟩
      · obtain ⟨rfl, rfl⟩ := Prod.mk.inj (Option.some.inj h)
        exact .inl ⟨rfl, rfl⟩

theorem contextField_suffix {number : Nat} {found : Option Element}
    (h : contextField number es = some (found, rest)) :
    rest <:+ es ∧ ∀ e ∈ found, e :: rest <:+ es := by
  induction es with
  | nil =>
      obtain ⟨rfl, rfl⟩ := Prod.mk.inj (Option.some.inj h)
      simp
  | cons e tail ih =>
      rw [contextField] at h
      split at h
      · split at h
        · obtain ⟨rfl, rfl⟩ := Prod.mk.inj (Option.some.inj h)
          simp
        · obtain ⟨hrest, hfound⟩ := ih h
          exact ⟨hrest.trans (List.suffix_cons e tail),
            fun e' he' => (hfound e' he').trans (List.suffix_cons e tail)⟩
      · obtain ⟨rfl, rfl⟩ := Prod.mk.inj (Option.some.inj h)
        simp

/-- A field with a context number is missing, or it is read somewhere on the way. -/
theorem readContext_cases {number : Nat} {f : Element → Option α} {value : Option α}
    (h : readContext number f es = some (value, rest)) :
    (value = none ∧ contextField number es = some (none, rest)) ∨
      ∃ e a, value = some a ∧ contextField number es = some (some e, rest) ∧ f e = some a := by
  obtain ⟨found, left, hfound, hvalue⟩ := bind_eq_some_iff.1 h
  cases found with
  | none =>
      obtain ⟨rfl, rfl⟩ := pure_eq_some_iff.1 hvalue
      exact .inl ⟨rfl, hfound⟩
  | some e =>
      cases hf : f e with
      | none => simp [hf] at hvalue
      | some a =>
          simp only [hf] at hvalue
          obtain ⟨rfl, rfl⟩ := pure_eq_some_iff.1 hvalue
          exact .inr ⟨e, a, rfl, hfound, hf⟩

theorem readContext_suffix {number : Nat} {f : Element → Option α} {value : Option α}
    (h : readContext number f es = some (value, rest)) : rest <:+ es := by
  rcases readContext_cases h with ⟨_, hfound⟩ | ⟨_, _, _, hfound, _⟩
  · exact (contextField_suffix hfound).1
  · exact (contextField_suffix hfound).1

/-- The field with the number zero is the next one or is missing. -/
theorem readContext_zero_cases {f : Element → Option α} {value : Option α}
    (h : readContext 0 f es = some (value, rest)) :
    (value = none ∧ es = rest ∧ ∀ e ∈ es.head?, e.tag ≠ Tag.constructedContext 0) ∨
      ∃ e a, value = some a ∧ es = e :: rest ∧ f e = some a := by
  cases es with
  | nil =>
      rcases readContext_cases h with ⟨rfl, hfound⟩ | ⟨_, _, _, hfound, _⟩
      · obtain ⟨_, rfl⟩ := Prod.mk.inj (Option.some.inj hfound)
        exact .inl ⟨rfl, rfl, by simp⟩
      · cases hfound
  | cons e tail =>
      by_cases hcontext : 0x80 ≤ e.tag.toNat ∧ e.tag.toNat < 0xC0 ∧ e.tag.toNat % 32 ≤ 0
      · have hfield : contextField 0 (e :: tail) = some (some e, tail) := by
          rw [contextField, if_pos hcontext, if_pos (Nat.le_zero.1 hcontext.2.2)]
        rcases readContext_cases h with ⟨_, hfound⟩ | ⟨e', a, rfl, hfound, hvalue⟩
        · rw [hfield] at hfound
          cases hfound
        · rw [hfield] at hfound
          obtain ⟨hfirst, rfl⟩ := Prod.mk.inj (Option.some.inj hfound)
          obtain rfl := Option.some.inj hfirst
          exact .inr ⟨e, a, rfl, rfl, hvalue⟩
      · have hfield : contextField 0 (e :: tail) = some (none, e :: tail) := by
          rw [contextField, if_neg hcontext]
        rcases readContext_cases h with ⟨rfl, hfound⟩ | ⟨_, _, _, hfound, _⟩
        · rw [hfield] at hfound
          obtain ⟨_, rfl⟩ := Prod.mk.inj (Option.some.inj hfound)
          refine .inl ⟨rfl, rfl, fun e' he' heq => hcontext ?_⟩
          obtain rfl := Option.some.inj he'
          rw [heq]
          decide
        · rw [hfield] at hfound
          cases hfound

end Fields

/-- The fields of an element are read from all the elements that it contains. -/
theorem fieldsOf?_eq_some {tag : UInt8} {fields : Fields α} {e : Element} {a : α}
    (h : fieldsOf? tag fields e = some a) :
    e.tag = tag ∧ ∃ es, elements? e.content = some es ∧ fields es = some (a, []) := by
  unfold fieldsOf? at h
  split at h
  · rename_i htag
    obtain ⟨es, helements, hfields⟩ := Option.bind_eq_some_iff.1 h
    refine ⟨htag, es, helements, ?_⟩
    split at hfields
    · rename_i value hvalue
      rw [hvalue, Option.some.inj hfields]
    · cases hfields
  · cases h

/-- The members of an element are read from all the elements that it contains. -/
theorem membersOf?_eq_some {tag : UInt8} {member : Element → Option α} {e : Element}
    {members : List α} (h : membersOf? tag member e = some members) :
    e.tag = tag ∧ ∃ es, elements? e.content = some es ∧ es.mapM member = some members := by
  unfold membersOf? at h
  split at h
  · rename_i htag
    exact ⟨htag, Option.bind_eq_some_iff.1 h⟩
  · cases h

section MapM

variable {f : α → Option β} {as : List α} {bs : List β} {a a' : α} {b : β}

theorem forall₂_of_mapM (h : as.mapM f = some bs) : List.Forall₂ (fun a b => f a = some b) as bs := by
  induction as generalizing bs with
  | nil =>
      obtain rfl := Option.some.inj h
      exact .nil
  | cons a rest ih =>
      rw [List.mapM_cons] at h
      obtain ⟨first, hfirst, h⟩ := Option.bind_eq_some_iff.1 h
      obtain ⟨others, hothers, h⟩ := Option.bind_eq_some_iff.1 h
      obtain rfl := Option.some.inj h
      exact .cons hfirst (ih hothers)

theorem mem_of_mapM (h : as.mapM f = some bs) (hb : b ∈ bs) : ∃ a ∈ as, f a = some b := by
  have hread := forall₂_of_mapM h
  clear h
  induction hread with
  | nil => cases hb
  | cons hfirst _ ih =>
      rcases List.mem_cons.1 hb with rfl | hmem
      · exact ⟨_, List.mem_cons_self, hfirst⟩
      · obtain ⟨other, hother, hvalue⟩ := ih hmem
        exact ⟨other, List.mem_cons_of_mem _ hother, hvalue⟩

theorem exists_of_mapM (h : as.mapM f = some bs) (ha : a ∈ as) : ∃ b ∈ bs, f a = some b := by
  have hread := forall₂_of_mapM h
  clear h
  induction hread with
  | nil => cases ha
  | cons hfirst _ ih =>
      rcases List.mem_cons.1 ha with rfl | hmem
      · exact ⟨_, List.mem_cons_self, hfirst⟩
      · obtain ⟨found, hfound, hvalue⟩ := ih hmem
        exact ⟨found, List.mem_cons_of_mem _ hfound, hvalue⟩

/-- Where no value occurs twice, no two members have the same one. -/
theorem eq_of_mapM_nodup (h : as.mapM f = some bs) (hnodup : bs.Nodup) (ha : a ∈ as) (ha' : a' ∈ as)
    (hb : f a = some b) (hb' : f a' = some b) : a = a' := by
  obtain ⟨i, hi, rfl⟩ := List.getElem_of_mem ha
  obtain ⟨j, hj, rfl⟩ := List.getElem_of_mem ha'
  obtain ⟨hlength, hread⟩ := List.forall₂_iff_get.1 (forall₂_of_mapM h)
  have hfirst : bs[i] = b := Option.some.inj ((hread i hi (hlength ▸ hi)).symm.trans hb)
  have hsecond : bs[j] = b := Option.some.inj ((hread j hj (hlength ▸ hj)).symm.trans hb')
  have hindex : i = j := hnodup.getElem_inj_iff.1 (hfirst.trans hsecond.symm)
  simp only [hindex]

/-- A reading that goes through for every element goes through. -/
theorem mapM_eq_some_map {g : α → β} {as : List α} (h : ∀ a ∈ as, f a = some (g a)) :
    as.mapM f = some (as.map g) := by
  induction as with
  | nil => rfl
  | cons a rest ih =>
      obtain ⟨hfirst, hrest⟩ := List.forall_mem_cons.1 h
      rw [List.mapM_cons, hfirst, ih hrest]
      rfl

theorem mapM_map {γ : Type} {k : β → γ} (as : List α) :
    as.mapM (fun a => (f a).map k) = (as.mapM f).map (·.map k) := by
  induction as with
  | nil => rfl
  | cons a rest ih =>
      rw [List.mapM_cons, List.mapM_cons, ih]
      cases f a with
      | none => rfl
      | some b => cases rest.mapM f <;> rfl

end MapM

end Mrtd.Der
