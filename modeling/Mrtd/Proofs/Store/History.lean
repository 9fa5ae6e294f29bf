import Mathlib.Data.List.Induction
import Mrtd.Store.RevocationLists

/-!
The history law of the store of revocation lists. What the store holds is a function of the writes
that were made to it: `record` writes each list down where it was ingested, valid as long as no
later write concerns its issuer. A further write changes the record as it changes the store, so the
two agree after every history, and all that the store answers about an issuer is what the last write
that concerns this issuer left behind.
-/

namespace Mrtd

namespace RevocationListStore

/-- A write to a store, of a list that is given in some form. -/
inductive Write (α : Type) where
  | ingest (given : α)
  | invalidate (issuer : String)
deriving DecidableEq, Repr

namespace Write

def map {α β : Type} (f : α → β) : Write α → Write β
  | ingest given => ingest (f given)
  | invalidate issuer => invalidate issuer

/-- The issuer whose lists the write invalidates. -/
def issuer : Write RevocationList → String
  | ingest crl => crl.issuer
  | invalidate issuer => issuer

/-- The write is about an issuer, however its name is spelled. -/
def concerns (w : Write RevocationList) (issuer : String) : Bool :=
  DistinguishedName.same w.issuer issuer

/-- The list that the write adds, which is valid. -/
def added? : Write RevocationList → Option RevocationList
  | ingest crl => some { crl with isValid := true }
  | invalidate _ => none

def apply (s : RevocationListStore) : Write RevocationList → RevocationListStore
  | ingest crl => s.ingest crl
  | invalidate issuer => s.invalidate issuer

end Write

/-- What a history of writes makes of the empty store. -/
def ofHistory (history : List (Write RevocationList)) : RevocationListStore :=
  history.foldl Write.apply empty

/-- What a history leaves behind: the lists in the order of their ingestion, each valid exactly if
no later write concerns its issuer. -/
def record : List (Write RevocationList) → List RevocationList
  | [] => []
  | .ingest crl :: later =>
      { crl with isValid := !later.any (·.concerns crl.issuer) } :: record later
  | .invalidate _ :: later => record later

/-- The list of an issuer that is valid after a history: the one that was added by the last write
that concerns the issuer, and none if that was an invalidation. -/
def standing? (issuer : String) (history : List (Write RevocationList)) : Option RevocationList :=
  (history.reverse.find? (·.concerns issuer)).bind Write.added?

def isOf (issuer : String) (crl : RevocationList) : Bool :=
  DistinguishedName.same crl.issuer issuer

/-- A list after an invalidation. -/
def cleared (issuer : String) (crl : RevocationList) : RevocationList :=
  if isValidFor issuer crl then { crl with isValid := false } else crl

variable {s : RevocationListStore} {issuer other : String} {crl : RevocationList}
  {w : Write RevocationList} {history : List (Write RevocationList)}

/-- Every write invalidates the lists of its issuer and then adds its own. -/
theorem lists_apply :
    (w.apply s).lists = s.lists.map (cleared w.issuer) ++ w.added?.toList := by
  cases w with
  | ingest crl => rfl
  | invalidate issuer => exact (List.append_nil _).symm

theorem cleared_flagged (valid : Bool) :
    cleared issuer { crl with isValid := valid } =
      { crl with isValid := valid && !DistinguishedName.same issuer crl.issuer } := by
  rw [DistinguishedName.same_comm]
  unfold cleared isValidFor
  cases valid <;> cases DistinguishedName.same crl.issuer issuer <;> simp

/-- A further write changes the record as it changes the store. -/
theorem record_append : record (history ++ [w]) =
    (record history).map (cleared w.issuer) ++ w.added?.toList := by
  induction history with
  | nil => cases w <;> rfl
  | cons first later ih =>
      cases first with
      | invalidate _ => exact ih
      | ingest crl =>
          -- Later writes clear the flag of the first list, and the new write is one of them.
          have hflag : (!(later ++ [w]).any (·.concerns crl.issuer)) =
              ((!later.any (·.concerns crl.issuer)) && !w.concerns crl.issuer) := by
            simp
          simp only [List.cons_append, record, ih, List.map_cons, cleared_flagged, hflag]
          rfl

theorem ofHistory_append : ofHistory (history ++ [w]) = w.apply (ofHistory history) :=
  List.foldl_append ..

theorem lists_ofHistory (history : List (Write RevocationList)) :
    (ofHistory history).lists = record history := by
  -- The record is read from the first write on, but the last one is what changed the store last.
  induction history using List.reverseRecOn with
  | nil => rfl
  | append_singleton history w ih => rw [ofHistory_append, lists_apply, record_append, ih]

@[simp] theorem isOf_cleared : isOf other (cleared issuer crl) = isOf other crl := by
  unfold cleared
  split <;> rfl

theorem cleared_eq_self (hname : DistinguishedName.same issuer other = false)
    (hof : isOf other crl = true) : cleared issuer crl = crl := by
  refine if_neg fun hvalid => ?_
  obtain ⟨_, hissuer⟩ := Bool.and_eq_true_iff.1 hvalid
  rw [DistinguishedName.same_comm] at hissuer
  rw [DistinguishedName.same_trans hissuer hof] at hname
  cases hname

/-- A write that is not about an issuer leaves the lists of this issuer, and their flags, alone. -/
theorem filter_isOf_apply (hother : w.concerns issuer = false) :
    (w.apply s).lists.filter (isOf issuer) = s.lists.filter (isOf issuer) := by
  have hadded : w.added?.toList.filter (isOf issuer) = [] := by
    cases w with
    | ingest crl => exact List.filter_cons_of_neg (Bool.eq_false_iff.1 hother)
    | invalidate _ => rfl
  have hkept : ∀ crl ∈ s.lists.filter (isOf issuer), cleared w.issuer crl = id crl := by
    intro crl hcrl
    exact cleared_eq_self hother (List.mem_filter.1 hcrl).2
  rw [lists_apply, List.filter_append, hadded, List.append_nil, List.filter_map]
  have hpred : isOf issuer ∘ cleared w.issuer = isOf issuer := funext fun _ => isOf_cleared
  rw [hpred, List.map_congr_left hkept, List.map_id]

theorem filter_isValidFor (lists : List RevocationList) :
    lists.filter (isValidFor issuer) = (lists.filter (isOf issuer)).filter (·.isValid) := by
  rw [List.filter_filter]
  rfl

/-- After a write that is about an issuer, the list that it adds is the one valid list of this
issuer. -/
theorem filter_isValidFor_apply (hconcerns : w.concerns issuer = true) :
    (w.apply s).lists.filter (isValidFor issuer) = w.added?.toList := by
  have hcleared : (s.lists.map (cleared w.issuer)).filter (isValidFor issuer) = [] := by
    have hcount : (s.invalidate w.issuer).validCount w.issuer = 0 := validCount_invalidate_self ..
    rw [← isValidFor_congr hconcerns]
    exact List.filter_eq_nil_iff.2 (List.countP_eq_zero.1 hcount)
  have hadded : w.added?.toList.filter (isValidFor issuer) = w.added?.toList := by
    cases w with
    | ingest crl => exact List.filter_cons_of_pos hconcerns
    | invalidate _ => rfl
  rw [lists_apply, List.filter_append, hcleared, hadded, List.nil_append]

theorem standing?_append :
    standing? issuer (history ++ [w]) =
      if w.concerns issuer then w.added? else standing? issuer history := by
  unfold standing?
  rw [List.reverse_append, List.reverse_singleton, List.singleton_append, List.find?_cons]
  cases w.concerns issuer <;> rfl

/-- The valid lists of an issuer after a history: the one that stands, if one does. -/
theorem filter_isValidFor_ofHistory (issuer : String) (history : List (Write RevocationList)) :
    (ofHistory history).lists.filter (isValidFor issuer) = (standing? issuer history).toList := by
  induction history using List.reverseRecOn with
  | nil => rfl
  | append_singleton history w ih =>
      rw [ofHistory_append, standing?_append]
      cases hconcerns : w.concerns issuer with
      | true => exact filter_isValidFor_apply hconcerns
      | false =>
          rw [filter_isValidFor, filter_isOf_apply hconcerns, ← filter_isValidFor]
          exact ih

theorem validCount_ofHistory (issuer : String) (history : List (Write RevocationList)) :
    (ofHistory history).validCount issuer = if (standing? issuer history).isSome then 1 else 0 := by
  rw [validCount, List.countP_eq_length_filter, filter_isValidFor_ofHistory]
  cases standing? issuer history <;> rfl

theorem findValidByIssuer?_ofHistory (issuer : String) (history : List (Write RevocationList)) :
    (ofHistory history).findValidByIssuer? issuer = standing? issuer history := by
  rw [findValidByIssuer?, ← List.head?_filter, filter_isValidFor_ofHistory]
  exact Option.head?_toList

/-- What a store is that writes turned the empty store into. -/
structure Reflects (s : RevocationListStore) (history : List (Write RevocationList)) : Prop where
  /-- Every list that was ever ingested is there, in this order, and nothing but its flag is of the
  store's making. -/
  lists_eq : s.lists = record history
  validCount_le_one : ∀ issuer, s.validCount issuer ≤ 1
  findValidByIssuer?_eq : ∀ issuer, s.findValidByIssuer? issuer = standing? issuer history
  /-- The pass that invalidates is the write, and reports whether there was a list to invalidate. -/
  invalidateByIssuer_eq : ∀ issuer, s.invalidateByIssuer issuer =
    (if (standing? issuer history).isSome then 1 else 0, Write.apply s (.invalidate issuer))
  /-- A write leaves the lists and the flags of all issuers alone that it is not about. -/
  others_kept : ∀ (w : Write RevocationList) (issuer : String), w.concerns issuer = false →
    (w.apply s).lists.filter (isOf issuer) = s.lists.filter (isOf issuer)

/-- The store reflects every history of writes. -/
theorem ofHistory_reflects (history : List (Write RevocationList)) :
    (ofHistory history).Reflects history where
  lists_eq := lists_ofHistory history
  validCount_le_one issuer := by
    rw [validCount_ofHistory]
    split <;> decide
  findValidByIssuer?_eq issuer := findValidByIssuer?_ofHistory issuer history
  invalidateByIssuer_eq issuer := by
    rw [RevocationListStore.invalidateByIssuer_eq, validCount_ofHistory]
    rfl
  others_kept _ _ hother := filter_isOf_apply hother

end RevocationListStore

end Mrtd
