import Mrtd.Der.Name
import Mrtd.Proofs.Der.Fields

/-!
The members of a SET in order. They are those of its elements, in another order. The orders in use
are transitive, so what is sorted ascends strictly; and members that ascend already are left as they
are.
-/

namespace Mrtd.Der

variable {α β : Type}

theorem compareBytes_eq_compareLex (a b : Bytes) :
    compareBytes a b = List.compareLex compare a b := by
  induction a generalizing b with
  | nil => cases b <;> rfl
  | cons first rest ih =>
      cases b with
      | nil => rfl
      | cons other more =>
          simp only [compareBytes, List.compareLex, ih]
          cases compare first other <;> rfl

instance : Std.TransCmp compareBytes := by
  have heq : compareBytes = List.compareLex compare := by
    funext a b
    exact compareBytes_eq_compareLex a b
  rw [heq]
  infer_instance

namespace Element

instance : Std.TransCmp compareHeader :=
  inferInstanceAs <| Std.TransCmp <|
    compareLex (compareOn Element.tag) (compareOn fun e => e.content.length)

/-- A comparison of what is computed from two elements. -/
theorem transCmp_on (cmp : β → β → Ordering) [Std.TransCmp cmp] (key : α → β) :
    Std.TransCmp fun a b => cmp (key a) (key b) where
  eq_swap := Std.OrientedCmp.eq_swap
  isLE_trans := Std.TransCmp.isLE_trans

instance : Std.TransCmp order :=
  have := transCmp_on compareBytes Element.content
  inferInstanceAs <| Std.TransCmp <|
    compareLex compareHeader fun a b => compareBytes a.content b.content

instance : Std.TransCmp alternativeOrder :=
  have := transCmp_on compareBytes Element.encode
  inferInstanceAs <| Std.TransCmp <|
    compareLex compareHeader <|
      compareLex (compareOn fun e => spelledLength e.encode) fun a b =>
        compareBytes a.encode b.encode

end Element

instance : Std.TransCmp NameAttribute.order :=
  Element.transCmp_on Element.order NameAttribute.element

section Sorted

variable {order : α → α → Ordering} {a : α} {members sorted result : List α}

theorem insertMember_perm {inserted : List α}
    (h : insertMember order a sorted = some inserted) : inserted.Perm (a :: sorted) := by
  induction sorted generalizing inserted with
  | nil =>
      obtain rfl := Option.some.inj h
      exact .refl _
  | cons b rest ih =>
      rw [insertMember] at h
      split at h
      · obtain rfl := Option.some.inj h
        exact .refl _
      · cases h
      · obtain ⟨tail, htail, rfl⟩ := Option.map_eq_some_iff.1 h
        exact ((ih htail).cons b).trans (.swap a b rest)

theorem foldlM_insertMember_perm
    (h : members.foldlM (fun sorted a => insertMember order a sorted) sorted = some result) :
    result.Perm (sorted ++ members) := by
  -- The members sorted so far are kept with those to come, hence the general start.
  induction members generalizing sorted with
  | nil =>
      obtain rfl := Option.some.inj h
      simp
  | cons a rest ih =>
      rw [List.foldlM_cons] at h
      obtain ⟨inserted, hinserted, hrest⟩ := Option.bind_eq_some_iff.1 h
      have hperm := (ih hrest).trans ((insertMember_perm hinserted).append_right rest)
      exact hperm.trans List.perm_middle.symm

theorem sortMembers_perm (h : sortMembers order members = some sorted) : sorted.Perm members := by
  obtain ⟨reversed, hfold, rfl⟩ := Option.map_eq_some_iff.1 h
  exact (List.reverse_perm _).trans (foldlM_insertMember_perm hfold)

/-- Each member is greater than all that come after it. -/
abbrev Descends (order : α → α → Ordering) (members : List α) : Prop :=
  members.Pairwise fun b a => order a b = .lt

/-- Each member is less than all that come after it. -/
abbrev Ascends (order : α → α → Ordering) (members : List α) : Prop :=
  members.Pairwise fun a b => order a b = .lt

theorem descends_insertMember [Std.TransCmp order] (hsorted : Descends order sorted)
    (h : insertMember order a sorted = some result) : Descends order result := by
  induction sorted generalizing result with
  | nil =>
      obtain rfl := Option.some.inj h
      exact List.pairwise_singleton ..
  | cons b rest ih =>
      obtain ⟨hfirst, hrest⟩ := List.pairwise_cons.1 hsorted
      rw [insertMember] at h
      split at h
      · rename_i hless
        obtain rfl := Option.some.inj h
        refine List.pairwise_cons.2 ⟨?_, hsorted⟩
        intro c hc
        rcases List.mem_cons.1 hc with rfl | hmem
        · exact hless
        · exact Std.TransCmp.lt_trans (hfirst c hmem) hless
      · cases h
      · rename_i hgreater
        obtain ⟨inserted, hinserted, rfl⟩ := Option.map_eq_some_iff.1 h
        refine List.pairwise_cons.2 ⟨?_, ih hrest hinserted⟩
        intro c hc
        rcases List.mem_cons.1 ((insertMember_perm hinserted).subset hc) with rfl | hmem
        · exact Std.OrientedCmp.lt_of_gt hgreater
        · exact hfirst c hmem

theorem ascends_sortMembers [Std.TransCmp order] (h : sortMembers order members = some sorted) :
    Ascends order sorted := by
  obtain ⟨reversed, hfold, rfl⟩ := Option.map_eq_some_iff.1 h
  suffices hdescends : ∀ start, Descends order start →
      members.foldlM (fun sorted a => insertMember order a sorted) start = some reversed →
        Descends order reversed from List.pairwise_reverse.2 (hdescends [] .nil hfold)
  clear hfold h
  induction members with
  | nil =>
      intro start hstart hfold
      obtain rfl := Option.some.inj hfold
      exact hstart
  | cons first rest ih =>
      intro start hstart hfold
      rw [List.foldlM_cons] at hfold
      obtain ⟨inserted, hinserted, hrest⟩ := Option.bind_eq_some_iff.1 hfold
      exact ih inserted (descends_insertMember hstart hinserted) hrest

/-- No two members of a set are the same. -/
theorem nodup_of_ascends [Std.TransCmp order] (h : Ascends order members) : members.Nodup := by
  refine h.imp ?_
  rintro b _ hless rfl
  have hself : order b b = .eq := Std.ReflCmp.compare_self
  rw [hself] at hless
  cases hless

theorem foldlM_insertMember_of_ascends (h : Ascends order (sorted.reverse ++ members)) :
    members.foldlM (fun sorted a => insertMember order a sorted) sorted =
      some (members.reverse ++ sorted) := by
  induction members generalizing sorted with
  | nil => rfl
  | cons a rest ih =>
      have hfirst : insertMember order a sorted = some (a :: sorted) := by
        cases sorted with
        | nil => rfl
        | cons b others =>
            have hless : order b a = .lt := by
              have hacross := (List.pairwise_append.1 h).2.2
              exact hacross b (by simp) a List.mem_cons_self
            simp only [insertMember, hless]
      rw [List.foldlM_cons, hfirst]
      have hrest : Ascends order ((a :: sorted).reverse ++ rest) := by simpa using h
      simpa using ih hrest

theorem sortMembers_of_ascends (h : Ascends order members) :
    sortMembers order members = some members := by
  rw [sortMembers, foldlM_insertMember_of_ascends (by simpa using h)]
  simp

end Sorted

section SetOf

variable {tag : UInt8} {member : Element → Option α} {order : α → α → Ordering} {e : Element}
  {sorted : List α}

/-- A SET is read member by member and then sorted. -/
theorem setOf?_eq_some (h : setOf? tag member order e = some sorted) :
    e.tag = tag ∧ ∃ es members, elements? e.content = some es ∧ es.mapM member = some members ∧
      sortMembers order members = some sorted := by
  obtain ⟨members, hmembers, hsort⟩ := Option.bind_eq_some_iff.1 h
  obtain ⟨htag, es, helements, hmap⟩ := membersOf?_eq_some hmembers
  exact ⟨htag, es, members, helements, hmap, hsort⟩

/-- Every member of a set is read from one of the elements of the set. -/
theorem mem_of_setOf? (h : setOf? tag member order e = some sorted) :
    e.tag = tag ∧ ∃ es, elements? e.content = some es ∧
      ∀ a ∈ sorted, ∃ e ∈ es, member e = some a := by
  obtain ⟨htag, es, members, helements, hmap, hsort⟩ := setOf?_eq_some h
  exact ⟨htag, es, helements, fun a ha => mem_of_mapM hmap ((sortMembers_perm hsort).subset ha)⟩

end SetOf

end Mrtd.Der
