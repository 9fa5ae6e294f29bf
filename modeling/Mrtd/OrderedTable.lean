/-!
Finite tables kept as lists of pairs with ascending keys. The order is given by a comparison of the
keys; a second entry under a key replaces the first.
-/

namespace Mrtd.OrderedTable

variable {κ ν : Type}

/-- Puts an entry in its place; an entry under the same key gives way. -/
def insert (compare : κ → κ → Ordering) (key : κ) (value : ν) : List (κ × ν) → List (κ × ν)
  | [] => [(key, value)]
  | entry :: rest =>
      match compare key entry.1 with
      | .lt => (key, value) :: entry :: rest
      | .eq => (key, value) :: rest
      | .gt => entry :: insert compare key value rest

/-- The table of a list of entries, later ones replacing earlier ones. -/
def ofList (compare : κ → κ → Ordering) (entries : List (κ × ν)) : List (κ × ν) :=
  entries.foldl (fun table entry => insert compare entry.1 entry.2 table) []

/-- The value under a key. -/
def find? [BEq κ] (key : κ) (table : List (κ × ν)) : Option ν :=
  table.lookup key

/-- The keys ascend. -/
def Ascending (compare : κ → κ → Ordering) (table : List (κ × ν)) : Prop :=
  table.Pairwise fun a b => compare a.1 b.1 = .lt

@[simp] theorem find?_nil [BEq κ] (key : κ) : find? key ([] : List (κ × ν)) = none := rfl

theorem find?_cons [BEq κ] (key : κ) (entry : κ × ν) (rest : List (κ × ν)) :
    find? key (entry :: rest) = if key == entry.1 then some entry.2 else find? key rest := by
  unfold find?
  rw [List.lookup_cons]
  cases key == entry.1 <;> rfl

theorem find?_eq_none_iff [BEq κ] [LawfulBEq κ] {key : κ} {table : List (κ × ν)} :
    find? key table = none ↔ key ∉ table.map Prod.fst := by
  induction table with
  | nil => simp
  | cons entry rest ih => by_cases h : key = entry.1 <;> simp [find?_cons, h, ih]

/-- Where no key occurs twice, look-up finds every entry. -/
theorem find?_eq_some_iff_mem [BEq κ] [LawfulBEq κ] {key : κ} {value : ν} {table : List (κ × ν)}
    (h : (table.map Prod.fst).Nodup) : find? key table = some value ↔ (key, value) ∈ table := by
  induction table with
  | nil => simp
  | cons entry rest ih =>
      obtain ⟨hentry, hrest⟩ := List.nodup_cons.1 h
      by_cases hkey : key = entry.1
      · have hmem : (key, value) ∉ rest := by
          intro hmem
          exact hentry (List.mem_map.2 ⟨(key, value), hmem, hkey⟩)
        subst hkey
        simp [find?_cons, hmem, Prod.ext_iff, eq_comm]
      · simp [find?_cons, hkey, ih hrest, Prod.ext_iff]

@[simp] theorem find?_insert_self [BEq κ] [LawfulBEq κ] (compare : κ → κ → Ordering)
    [Std.LawfulEqCmp compare] (key : κ) (value : ν) (table : List (κ × ν)) :
    find? key (insert compare key value table) = some value := by
  induction table with
  | nil => simp [insert, find?_cons]
  | cons entry rest ih =>
      simp only [insert]
      split
      · simp [find?_cons]
      · simp [find?_cons]
      · rename_i hgt
        have hne : key ≠ entry.1 := by
          rintro rfl
          simp [Std.ReflCmp.compare_self] at hgt
        simp [find?_cons, hne, ih]

theorem find?_insert_of_ne [BEq κ] [LawfulBEq κ] (compare : κ → κ → Ordering)
    [Std.LawfulEqCmp compare] {key other : κ} (hne : other ≠ key) (value : ν)
    (table : List (κ × ν)) : find? other (insert compare key value table) = find? other table := by
  induction table with
  | nil => simp [insert, find?_cons, hne]
  | cons entry rest ih =>
      simp only [insert]
      split
      · simp [find?_cons, hne]
      · rename_i heq
        have hentry : other ≠ entry.1 := Std.LawfulEqCmp.eq_of_compare heq ▸ hne
        simp [find?_cons, hne, hentry]
      · simp [find?_cons, ih]

theorem not_mem_keys_insert [BEq κ] [LawfulBEq κ] (compare : κ → κ → Ordering)
    [Std.LawfulEqCmp compare] {key other : κ} {value : ν} {table : List (κ × ν)} :
    other ∉ (insert compare key value table).map Prod.fst ↔
      other ≠ key ∧ other ∉ table.map Prod.fst := by
  rw [← find?_eq_none_iff, ← find?_eq_none_iff]
  by_cases hkey : other = key
  · simp [hkey]
  · simp [hkey, find?_insert_of_ne compare hkey]

/-- Of several entries under one key the last counts. -/
theorem find?_ofList [BEq κ] [LawfulBEq κ] (compare : κ → κ → Ordering)
    [Std.LawfulEqCmp compare] (key : κ) (entries : List (κ × ν)) :
    find? key (ofList compare entries) = find? key entries.reverse := by
  -- The table is built from the left, so the induction is over any table to begin with.
  suffices h : ∀ table : List (κ × ν),
      find? key (entries.foldl (fun table entry => insert compare entry.1 entry.2 table) table) =
        (find? key entries.reverse).or (find? key table) by
    exact (h []).trans (Option.or_none ..)
  induction entries with
  | nil => intro table; rfl
  | cons entry rest ih =>
      intro table
      have hreverse : find? key (entry :: rest).reverse =
          (find? key rest.reverse).or (if key == entry.1 then some entry.2 else none) := by
        rw [List.reverse_cons, find?, List.lookup_append, ← find?, ← find?, find?_cons, find?_nil]
      rw [List.foldl_cons, ih, hreverse, Option.or_assoc]
      by_cases hkey : key = entry.1
      · simp [hkey]
      · simp [hkey, find?_insert_of_ne compare hkey]

theorem find?_map [BEq κ] {σ : Type} (key : κ) (f : σ → κ) (g : σ → ν) (as : List σ) :
    find? key (as.map fun a => (f a, g a)) = (as.find? fun a => key == f a).map g := by
  induction as with
  | nil => rfl
  | cons a rest ih =>
      rw [List.map_cons, find?_cons, List.find?_cons, ih]
      cases key == f a <;> rfl

theorem mem_insert_imp {compare : κ → κ → Ordering} {key : κ} {value : ν} {table : List (κ × ν)}
    {entry : κ × ν} (h : entry ∈ insert compare key value table) :
    entry = (key, value) ∨ entry ∈ table := by
  induction table with
  | nil => simpa [insert] using h
  | cons first rest ih =>
      simp only [insert] at h
      split at h
      · simpa using h
      · rcases List.mem_cons.1 h with rfl | h
        · exact .inl rfl
        · exact .inr (List.mem_cons_of_mem _ h)
      · rcases List.mem_cons.1 h with rfl | h
        · exact .inr List.mem_cons_self
        · exact (ih h).imp_right (List.mem_cons_of_mem _)

theorem ascending_insert {compare : κ → κ → Ordering} [Std.TransCmp compare]
    [Std.LawfulEqCmp compare] (key : κ) (value : ν) {table : List (κ × ν)}
    (h : Ascending compare table) : Ascending compare (insert compare key value table) := by
  induction table with
  | nil => simp [insert, Ascending]
  | cons first rest ih =>
      obtain ⟨hfirst, hrest⟩ := List.pairwise_cons.1 h
      simp only [insert]
      split
      · rename_i hlt
        refine List.pairwise_cons.2 ⟨fun entry hentry => ?_, h⟩
        rcases List.mem_cons.1 hentry with rfl | hentry
        · exact hlt
        · exact Std.TransCmp.lt_trans hlt (hfirst entry hentry)
      · rename_i heq
        obtain rfl := Std.LawfulEqCmp.eq_of_compare heq
        exact List.pairwise_cons.2 ⟨hfirst, hrest⟩
      · rename_i hgt
        refine List.pairwise_cons.2 ⟨fun entry hentry => ?_, ih hrest⟩
        rcases mem_insert_imp hentry with rfl | hentry
        · exact Std.OrientedCmp.lt_of_gt hgt
        · exact hfirst entry hentry

/-- The keys of a table ascend, whatever the order of the entries it is made of. -/
theorem ascending_ofList (compare : κ → κ → Ordering) [Std.TransCmp compare]
    [Std.LawfulEqCmp compare] (entries : List (κ × ν)) :
    Ascending compare (ofList compare entries) :=
  List.foldlRecOn entries _ List.Pairwise.nil fun _ h entry _ => ascending_insert entry.1 entry.2 h

/-- Keys that ascend are distinct. -/
theorem nodup_keys {compare : κ → κ → Ordering} [Std.ReflCmp compare] {table : List (κ × ν)}
    (h : Ascending compare table) : (table.map Prod.fst).Nodup := by
  rw [List.Nodup, List.pairwise_map]
  refine h.imp ?_
  intro a b hlt heq
  have hself : compare b.1 b.1 = .eq := Std.ReflCmp.compare_self
  rw [heq, hself] at hlt
  cases hlt

/-- Where no key occurs twice, look-up in the table finds every entry that it is made of. -/
theorem find?_ofList_eq_some_iff [BEq κ] [LawfulBEq κ] (compare : κ → κ → Ordering)
    [Std.LawfulEqCmp compare] {key : κ} {value : ν} {entries : List (κ × ν)}
    (h : (entries.map Prod.fst).Nodup) :
    find? key (ofList compare entries) = some value ↔ (key, value) ∈ entries := by
  have hreverse : (entries.reverse.map Prod.fst).Nodup :=
    ((List.reverse_perm entries).map Prod.fst).nodup_iff.2 h
  rw [find?_ofList, find?_eq_some_iff_mem hreverse, List.mem_reverse]

theorem mem_ofList_iff [BEq κ] [LawfulBEq κ] (compare : κ → κ → Ordering) [Std.TransCmp compare]
    [Std.LawfulEqCmp compare] {entries : List (κ × ν)} (h : (entries.map Prod.fst).Nodup)
    {entry : κ × ν} : entry ∈ ofList compare entries ↔ entry ∈ entries := by
  rw [← find?_eq_some_iff_mem (nodup_keys (ascending_ofList compare entries)),
    find?_ofList_eq_some_iff compare h]

end Mrtd.OrderedTable
