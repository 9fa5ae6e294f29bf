import Mathlib.Data.List.Sort
import Mrtd.Proofs.Sod.Verdict

/-!
How a comparison divides the data groups presented. They come as the entries of a map, in any order
and with no number twice, and are put in the order of their numbers. The verdict on one of them is
made from its own octets and from what the table lists under its number. So the verdicts are
determined by what was presented, not by its order, and neither the other groups nor listed groups
that were not presented have a part in any of them.
-/

namespace Mrtd

namespace OrderedTable

variable {κ ν : Type} {compare : κ → κ → Ordering} {table other : List (κ × ν)}

/-- Tables are told apart by what they hold. -/
theorem Ascending.eq_of_mem_iff [Std.TransCmp compare] (h : Ascending compare table)
    (hother : Ascending compare other) (hsame : ∀ entry, entry ∈ table ↔ entry ∈ other) :
    table = other := by
  have : Std.Irrefl fun a b : κ × ν => compare a.1 b.1 = .lt := by
    constructor
    intro a
    simp [Std.ReflCmp.compare_self]
  have : Std.Antisymm fun a b : κ × ν => compare a.1 b.1 = .lt := by
    constructor
    intro a b hab hba
    cases (Std.OrientedCmp.gt_of_lt hab).symm.trans hba
  exact List.Pairwise.eq_of_mem_iff h hother hsame

/-- The order in which entries with distinct keys are entered does not matter. -/
theorem ofList_congr [BEq κ] [LawfulBEq κ] [Std.TransCmp compare] [Std.LawfulEqCmp compare]
    (h : (table.map Prod.fst).Nodup) (hsame : other.Perm table) :
    ofList compare other = ofList compare table := by
  have hother : (other.map Prod.fst).Nodup := (hsame.map Prod.fst).nodup_iff.2 h
  apply (ascending_ofList compare other).eq_of_mem_iff (ascending_ofList compare table)
  intro entry
  rw [mem_ofList_iff compare hother, mem_ofList_iff compare h, hsame.mem_iff]

theorem ofList_perm [BEq κ] [LawfulBEq κ] [Std.TransCmp compare] [Std.LawfulEqCmp compare]
    (h : (table.map Prod.fst).Nodup) : (ofList compare table).Perm table := by
  have hkeys := nodup_keys (ascending_ofList compare table)
  apply (List.perm_ext_iff_of_nodup hkeys.of_map h.of_map).2
  intro entry
  exact mem_ofList_iff compare h

end OrderedTable

namespace DataGroupReport

variable {algorithm : DigestAlgorithm} {digests presented other : List (Nat × Bytes)}
  {group : Nat × Bytes} {number : Nat} {v : DataGroupVerdict}

/-- The table lists the group, with the digest of its octets. -/
def IsListed (algorithm : DigestAlgorithm) (digests : List (Nat × Bytes)) (group : Nat × Bytes) :
    Prop :=
  (group.1, algorithm.digest group.2) ∈ digests

instance : DecidablePred (IsListed algorithm digests) := fun _ => inferInstanceAs (Decidable (_ ∈ _))

/-- What the verdict on a group says. -/
structure Judges (algorithm : DigestAlgorithm) (digests : List (Nat × Bytes)) (group : Nat × Bytes)
    (v : DataGroupVerdict) : Prop where
  number : v.number = group.1
  valid : v.valid = true ↔ IsListed algorithm digests group
  actual : v.actual = (algorithm.digest group.2).toHex
  expected : ∀ digest, (group.1, digest) ∈ digests → v.expected = digest.toHex
  unlisted : group.1 ∉ digests.map Prod.fst → v.valid = false ∧ v.expected = ""

theorem number_judge : (judge algorithm digests group).number = group.1 := by
  unfold judge
  split <;> rfl

theorem actual_judge :
    (judge algorithm digests group).actual = (algorithm.digest group.2).toHex := by
  unfold judge
  split <;> rfl

theorem valid_judge_iff_isListed (h : (digests.map Prod.fst).Nodup) :
    (judge algorithm digests group).valid = true ↔ IsListed algorithm digests group := by
  rw [valid_judge_iff, OrderedTable.find?_eq_some_iff_mem h, IsListed]

theorem judges_judge (h : (digests.map Prod.fst).Nodup) :
    Judges algorithm digests group (judge algorithm digests group) := by
  refine ⟨number_judge, valid_judge_iff_isListed h, actual_judge, ?_, ?_⟩
  · intro digest hlisted
    rw [judge, (OrderedTable.find?_eq_some_iff_mem h).2 hlisted]
  · intro hunlisted
    rw [judge, OrderedTable.find?_eq_none_iff.2 hunlisted]
    exact ⟨rfl, rfl⟩

theorem mem_verdicts_iff (h : (presented.map Prod.fst).Nodup) :
    v ∈ (compare algorithm digests presented).verdicts ↔
      ∃ group ∈ presented, judge algorithm digests group = v := by
  simp only [compare, List.mem_map, OrderedTable.mem_ofList_iff Ord.compare h]

theorem verdicts_ascend :
    ((compare algorithm digests presented).verdicts.map (·.number)).Pairwise (· < ·) := by
  have hascending := OrderedTable.ascending_ofList Ord.compare presented
  rw [compare, List.map_map, List.pairwise_map]
  refine hascending.imp ?_
  intro a b hlt
  simpa [number_judge] using Nat.compare_eq_lt.1 hlt

theorem mem_numbers_iff (h : (presented.map Prod.fst).Nodup) :
    number ∈ (compare algorithm digests presented).verdicts.map (·.number) ↔
      number ∈ presented.map Prod.fst := by
  simp only [compare, List.map_map, List.mem_map, Function.comp_apply, number_judge,
    OrderedTable.mem_ofList_iff Ord.compare h]

theorem total_compare (h : (presented.map Prod.fst).Nodup) :
    (compare algorithm digests presented).total = presented.length := by
  rw [total, compare, List.length_map]
  exact (OrderedTable.ofList_perm h).length_eq

theorem validCount_compare (hdigests : (digests.map Prod.fst).Nodup)
    (h : (presented.map Prod.fst).Nodup) :
    (compare algorithm digests presented).validCount =
      presented.countP fun group => IsListed algorithm digests group := by
  rw [validCount, compare, List.countP_map, (OrderedTable.ofList_perm h).countP_eq]
  apply List.countP_congr
  intro group _
  simpa using valid_judge_iff_isListed hdigests

theorem invalid_ascends : (compare algorithm digests presented).invalid.Pairwise (· < ·) :=
  verdicts_ascend.sublist (List.filter_sublist.map _)

theorem mem_invalid_iff (hdigests : (digests.map Prod.fst).Nodup)
    (h : (presented.map Prod.fst).Nodup) :
    number ∈ (compare algorithm digests presented).invalid ↔
      ∃ octets, (number, octets) ∈ presented ∧ ¬ IsListed algorithm digests (number, octets) := by
  simp only [invalid, List.mem_map, List.mem_filter, mem_verdicts_iff h]
  constructor
  · rintro ⟨_, ⟨⟨group, hgroup, rfl⟩, hinvalid⟩, rfl⟩
    rw [number_judge]
    refine ⟨group.2, hgroup, ?_⟩
    rw [← valid_judge_iff_isListed hdigests]
    simpa using hinvalid
  · rintro ⟨octets, hgroup, hunlisted⟩
    refine ⟨_, ⟨⟨_, hgroup, rfl⟩, ?_⟩, number_judge⟩
    rw [← valid_judge_iff_isListed hdigests] at hunlisted
    simpa using hunlisted

theorem notPresented_ascends (h : OrderedTable.Ascending Ord.compare digests) :
    (compare algorithm digests presented).notPresented.Pairwise (· < ·) := by
  apply List.Pairwise.filter
  rw [List.pairwise_map]
  exact h.imp Nat.compare_eq_lt.1

theorem mem_notPresented_iff :
    number ∈ (compare algorithm digests presented).notPresented ↔
      number ∈ digests.map Prod.fst ∧ number ∉ presented.map Prod.fst := by
  have hany : presented.any (·.1 == number) = true ↔ number ∈ presented.map Prod.fst := by
    simp only [List.any_eq_true, List.mem_map, beq_iff_eq]
  rw [compare, List.mem_filter, Bool.not_eq_true', ← Bool.not_eq_true, hany]

/-- What a report says of the groups presented and of those that are listed. -/
structure Divides (r : DataGroupReport) (algorithm : DigestAlgorithm)
    (digests presented : List (Nat × Bytes)) : Prop where
  same_algorithm : r.algorithm = algorithm
  numbers_ascend : (r.verdicts.map (·.number)).Pairwise (· < ·)
  mem_numbers : ∀ number,
    number ∈ r.verdicts.map (·.number) ↔ number ∈ presented.map Prod.fst
  judges : ∀ v ∈ r.verdicts, ∃ group ∈ presented, Judges algorithm digests group v
  judged : ∀ group ∈ presented, ∃ v ∈ r.verdicts, Judges algorithm digests group v
  total : r.total = presented.length
  counts : r.validCount + r.invalidCount = r.total
  valid_count : r.validCount = presented.countP fun group => IsListed algorithm digests group
  invalid_ascends : r.invalid.Pairwise (· < ·)
  mem_invalid : ∀ number, number ∈ r.invalid ↔
    ∃ octets, (number, octets) ∈ presented ∧ ¬ IsListed algorithm digests (number, octets)
  not_presented_ascends : r.notPresented.Pairwise (· < ·)
  mem_not_presented : ∀ number,
    number ∈ r.notPresented ↔ number ∈ digests.map Prod.fst ∧ number ∉ presented.map Prod.fst

theorem divides_compare (hdigests : OrderedTable.Ascending Ord.compare digests)
    (h : (presented.map Prod.fst).Nodup) :
    (compare algorithm digests presented).Divides algorithm digests presented := by
  have hdistinct := OrderedTable.nodup_keys hdigests
  constructor
  · rfl
  · exact verdicts_ascend
  · intro number
    exact mem_numbers_iff h
  · intro v hv
    obtain ⟨group, hgroup, rfl⟩ := (mem_verdicts_iff h).1 hv
    exact ⟨group, hgroup, judges_judge hdistinct⟩
  · intro group hgroup
    have hmade : judge algorithm digests group ∈ (compare algorithm digests presented).verdicts :=
      (mem_verdicts_iff h).2 ⟨group, hgroup, rfl⟩
    exact ⟨_, hmade, judges_judge hdistinct⟩
  · exact total_compare h
  · exact validCount_add_invalidCount _
  · exact validCount_compare hdistinct h
  · exact invalid_ascends
  · intro number
    exact mem_invalid_iff hdistinct h
  · exact notPresented_ascends hdigests
  · intro number
    exact mem_notPresented_iff

/-- The order in which the groups are presented does not matter. -/
theorem compare_perm (h : (presented.map Prod.fst).Nodup) (hsame : other.Perm presented) :
    compare algorithm digests other = compare algorithm digests presented := by
  have hany : ∀ number, other.any (·.1 == number) = presented.any (·.1 == number) := by
    intro number
    exact hsame.any_eq
  simp only [compare, OrderedTable.ofList_congr h hsame, hany]

/-- What is listed of groups that are not presented does not enter the verdicts. -/
theorem verdicts_congr (h : (presented.map Prod.fst).Nodup)
    (hsame : ∀ number ∈ presented.map Prod.fst,
      OrderedTable.find? number other = OrderedTable.find? number digests) :
    (compare algorithm other presented).verdicts =
      (compare algorithm digests presented).verdicts := by
  apply List.map_congr_left
  intro group hgroup
  rw [OrderedTable.mem_ofList_iff Ord.compare h] at hgroup
  simp only [judge, hsame group.1 (List.mem_map_of_mem hgroup)]

/-- Passing over the verdict on a number is passing over the group with that number. -/
theorem filter_verdicts :
    (compare algorithm digests presented).verdicts.filter (·.number != number) =
      ((OrderedTable.ofList Ord.compare presented).filter (·.1 != number)).map
        (judge algorithm digests) := by
  rw [compare, List.filter_map]
  simp only [Function.comp_def, number_judge]

/-- The verdicts on the other groups stay when one group is another, is left out or is added. -/
theorem verdicts_besides (h : (presented.map Prod.fst).Nodup) (hother : (other.map Prod.fst).Nodup)
    (hsame : ∀ group, group.1 ≠ number → (group ∈ other ↔ group ∈ presented)) :
    (compare algorithm digests other).verdicts.filter (·.number != number) =
      (compare algorithm digests presented).verdicts.filter (·.number != number) := by
  have hascend : ∀ entries : List (Nat × Bytes), OrderedTable.Ascending Ord.compare
      ((OrderedTable.ofList Ord.compare entries).filter (·.1 != number)) :=
    fun entries => (OrderedTable.ascending_ofList Ord.compare entries).filter _
  rw [filter_verdicts, filter_verdicts]
  apply congrArg
  apply (hascend other).eq_of_mem_iff (hascend presented)
  intro group
  simp only [List.mem_filter, bne_iff_ne, OrderedTable.mem_ofList_iff Ord.compare h,
    OrderedTable.mem_ofList_iff Ord.compare hother]
  exact and_congr_left (hsame group)

/-- A comparison divides the groups presented, each by its own octets and what is listed under its
number. Neither the order in which they are presented, nor the other groups, nor what is listed of
groups that are not presented has a part in that. -/
theorem compare_partitions (hdigests : OrderedTable.Ascending Ord.compare digests)
    (h : (presented.map Prod.fst).Nodup) :
    (compare algorithm digests presented).Divides algorithm digests presented ∧
      (∀ other, other.Perm presented →
        compare algorithm digests other = compare algorithm digests presented) ∧
      (∀ other, (∀ number ∈ presented.map Prod.fst,
          OrderedTable.find? number other = OrderedTable.find? number digests) →
        (compare algorithm other presented).verdicts =
          (compare algorithm digests presented).verdicts) ∧
      ((∀ group ∈ presented, IsListed algorithm digests group) →
        (compare algorithm digests presented).invalidCount = 0 ∧
          (compare algorithm digests presented).total = presented.length) ∧
      ∀ number other, (other.map Prod.fst).Nodup →
        (∀ group, group.1 ≠ number → (group ∈ other ↔ group ∈ presented)) →
          (compare algorithm digests other).verdicts.filter (·.number != number) =
            (compare algorithm digests presented).verdicts.filter (·.number != number) := by
  have hdivides : (compare algorithm digests presented).Divides algorithm digests presented :=
    divides_compare hdigests h
  refine ⟨hdivides, ?_, ?_, ?_, ?_⟩
  · intro other hsame
    exact compare_perm h hsame
  · intro other hsame
    exact verdicts_congr h hsame
  · intro hlisted
    have hvalid : (compare algorithm digests presented).validCount = presented.length := by
      rw [hdivides.valid_count, List.countP_eq_length]
      simpa using hlisted
    refine ⟨?_, hdivides.total⟩
    rw [invalidCount, hdivides.total, hvalid, Nat.sub_self]
  · intro number other hother hsame
    exact verdicts_besides h hother hsame

end DataGroupReport

namespace Specimen

open DataGroupReport

/-- Digests of three groups. That of the second one is not of the octets presented. -/
def threeDigests : List (Nat × Bytes) :=
  [(1, DigestAlgorithm.sha1.digest [0x61]), (2, [0]), (14, [])]

/-- Three groups, not in order. The security object does not list the third one. -/
def threeGroups : List (Nat × Bytes) :=
  [(3, [0x63]), (1, [0x61]), (2, [0x62])]

def threeReport : DataGroupReport :=
  DataGroupReport.compare .sha1 threeDigests threeGroups

theorem threeGroups_partition :
    threeReport.verdicts.map (·.valid) = [true, false, false] ∧ threeReport.invalid = [2, 3] ∧
      threeReport.notPresented = [14] ∧
      threeReport.Divides .sha1 threeDigests threeGroups ∧
      DataGroupReport.compare .sha1 threeDigests threeGroups.reverse = threeReport := by
  have hascending : OrderedTable.Ascending Ord.compare threeDigests := by
    simp [threeDigests, OrderedTable.Ascending, Nat.compare_eq_lt]
  have hdistinct : (threeGroups.map Prod.fst).Nodup := by decide
  obtain ⟨hdivides, hperm, _⟩ := compare_partitions hascending hdistinct
  refine ⟨?_, ?_, ?_, hdivides, hperm _ (List.reverse_perm _)⟩
  · decide +kernel
  · decide +kernel
  · decide

end Specimen

end Mrtd
