import Mrtd.Proofs.Store.History
import Mrtd.Trust.Revocation

/-!
What a revocation check says after any history of the store. The history decides which list is
consulted: the one that stands for the issuer, or else, where that is allowed, the latest of the
country's valid lists. What was handed in with that list decides the verdict. Lists that are not
valid have no part in it.
-/

namespace Mrtd

/-- An entry as it is handed in, its serial number in any spelling. -/
structure StatedEntry where
  serial : String
  date : Timestamp
  reason : Option RevocationReason
deriving DecidableEq, Repr

/-- A list as it is handed in: entries in any order, also several for one serial number. -/
structure Publication where
  id : String
  issuer : String
  country : Option String
  thisUpdate : Timestamp
  nextUpdate : Option Timestamp
  entries : List StatedEntry
deriving DecidableEq, Repr

namespace StatedEntry

def entry (e : StatedEntry) : RevocationEntry :=
  .ofSerial e.serial e.date e.reason

end StatedEntry

theorem RevocationList.isStale_iff {crl : RevocationList} {now : Timestamp} :
    crl.isStale now = true ↔ ∃ next ∈ crl.nextUpdate, next < now := by
  simp [isStale, Option.any_eq_true]

namespace Publication

def list (p : Publication) : RevocationList :=
  .ofEntries p.id p.issuer p.country p.thisUpdate p.nextUpdate (p.entries.map StatedEntry.entry)

/-- The entry that counts for a serial number: the last one that has it. -/
def entryFor? (p : Publication) (serial : String) : Option StatedEntry :=
  p.entries.reverse.find? fun e => SerialNumber.normalize serial == SerialNumber.normalize e.serial

theorem findEntry?_list (p : Publication) (serial : String) :
    p.list.findEntry? serial = (p.entryFor? serial).map StatedEntry.entry := by
  have hentries : p.list.entries = OrderedTable.ofList compare
      (p.entries.map fun e => (SerialNumber.normalize e.serial, e.entry)) := by
    simp only [list, RevocationList.ofEntries, List.map_map]
    rfl
  rw [RevocationList.findEntry?, hentries, OrderedTable.find?_ofList, ← List.map_reverse,
    OrderedTable.find?_map]
  rfl

theorem isSome_entryFor?_iff {p : Publication} {serial : String} :
    (p.entryFor? serial).isSome = true ↔
      ∃ e ∈ p.entries, SerialNumber.normalize e.serial = SerialNumber.normalize serial := by
  rw [entryFor?, List.find?_isSome]
  constructor
  · rintro ⟨e, hmem, hserial⟩
    exact ⟨e, List.mem_reverse.1 hmem, (eq_of_beq hserial).symm⟩
  · rintro ⟨e, hmem, hserial⟩
    exact ⟨e, List.mem_reverse.2 hmem, beq_iff_eq.2 hserial.symm⟩

/-- What a check reports that consults the list. -/
structure Judges (p : Publication) (c : Certificate) (now : Timestamp) (source : CrlSource)
    (check : RevocationCheck) : Prop where
  checked : check.checked = true
  revoked_iff : check.revoked = true ↔
    ∃ e ∈ p.entries, SerialNumber.normalize e.serial = SerialNumber.normalize c.serial
  status : check.status = .stale ∧ (∃ next ∈ p.nextUpdate, next < now) ∨
    check.status = .current ∧ ∀ next ∈ p.nextUpdate, now ≤ next
  /-- Date and reason are those of the entry that counts. -/
  details : check.details = some {
    serial := c.serial
    crlId := p.id
    crlIssuer := p.issuer
    source := source
    thisUpdate := p.thisUpdate
    nextUpdate := p.nextUpdate
    date := (p.entryFor? c.serial).map (·.date)
    reason := (p.entryFor? c.serial).bind (·.reason) }

theorem judges_ofList (p : Publication) (c : Certificate) (now : Timestamp) (source : CrlSource) :
    p.Judges c now source (.ofList c now p.list source) where
  checked := rfl
  revoked_iff := by
    rw [← isSome_entryFor?_iff, RevocationCheck.ofList, findEntry?_list, Option.isSome_map]
  status := by
    by_cases hstale : ∃ next ∈ p.nextUpdate, next < now
    · exact .inl ⟨if_pos (RevocationList.isStale_iff.2 hstale), hstale⟩
    · refine .inr ⟨if_neg (mt RevocationList.isStale_iff.1 hstale), ?_⟩
      intro next hmem
      apply Int.not_lt.1
      intro hoverdue
      exact hstale ⟨next, hmem, hoverdue⟩
  details := by
    simp only [RevocationCheck.ofList, findEntry?_list]
    cases p.entryFor? c.serial <;> rfl

end Publication

namespace RevocationListStore

variable {lists : List RevocationList} {crl : RevocationList}
  {history : List (Write RevocationList)} {issuer : String}

/-- A list of the latest date among some, behind which no other has this date. -/
def IsLatest (crl : RevocationList) (lists : List RevocationList) : Prop :=
  ∃ before after, lists = before ++ crl :: after ∧
    (∀ other ∈ before, other.thisUpdate ≤ crl.thisUpdate) ∧
      ∀ other ∈ after, other.thisUpdate < crl.thisUpdate

theorem latest?_eq_none_iff : latest? lists = none ↔ lists = [] := by
  cases lists with
  | nil => simp [latest?]
  | cons crl rest => simp only [latest?]; split <;> simp

theorem isLatest_of_latest? (h : latest? lists = some crl) : IsLatest crl lists := by
  induction lists generalizing crl with
  | nil => cases h
  | cons first rest ih =>
      simp only [latest?] at h
      split at h
      · rename_i hnone
        obtain rfl := latest?_eq_none_iff.1 hnone
        obtain rfl := Option.some.inj h
        exact ⟨[], [], rfl, by simp, by simp⟩
      · rename_i other hother
        obtain ⟨before, after, rfl, hbefore, hafter⟩ := ih hother
        have hle : ∀ one ∈ before ++ other :: after, one.thisUpdate ≤ other.thisUpdate := by
          intro one hone
          rcases List.mem_append.1 hone with hone | hone
          · exact hbefore one hone
          · rcases List.mem_cons.1 hone with rfl | hone
            · exact Int.le_refl _
            · exact Int.le_of_lt (hafter one hone)
        by_cases hlt : other.thisUpdate < first.thisUpdate
        · rw [if_pos hlt] at h
          obtain rfl := Option.some.inj h
          exact ⟨[], _, rfl, by simp, fun one hone => Int.lt_of_le_of_lt (hle one hone) hlt⟩
        · rw [if_neg hlt] at h
          obtain rfl := Option.some.inj h
          refine ⟨first :: before, after, rfl, ?_, hafter⟩
          intro one hone
          rcases List.mem_cons.1 hone with rfl | hone
          · exact Int.not_lt.1 hlt
          · exact hbefore one hone

/-- The lists of a country that are valid after a history. -/
def validIn (country : String) (history : List (Write RevocationList)) : List RevocationList :=
  (record history).filter fun crl =>
    crl.isValid && crl.country.any fun code => Text.eqIgnoreAsciiCase code country

theorem findValidByCountry?_ofHistory (country : String)
    (history : List (Write RevocationList)) :
    findValidByCountry? (ofHistory history) country = latest? (validIn country history) := by
  unfold findValidByCountry?
  rw [lists_ofHistory, validIn]

theorem isValid_of_standing? (h : standing? issuer history = some crl) :
    crl ∈ record history ∧ crl.isValid = true := by
  have hmem : crl ∈ (ofHistory history).lists.filter (isValidFor issuer) := by
    rw [filter_isValidFor_ofHistory, h]
    exact List.mem_singleton_self crl
  obtain ⟨hheld, hvalid⟩ := List.mem_filter.1 hmem
  exact ⟨lists_ofHistory history ▸ hheld, (Bool.and_eq_true_iff.1 hvalid).1⟩

/-- What is on record was ingested, and only its flag can differ. -/
theorem mem_record (h : crl ∈ record history) :
    ∃ given, Write.ingest given ∈ history ∧ crl = { given with isValid := crl.isValid } := by
  induction history with
  | nil => cases h
  | cons first later ih =>
      cases first with
      | ingest given =>
          rcases List.mem_cons.1 h with rfl | h
          · exact ⟨given, List.mem_cons_self, rfl⟩
          · obtain ⟨given, hmem, heq⟩ := ih h
            exact ⟨given, List.mem_cons_of_mem _ hmem, heq⟩
      | invalidate issuer =>
          obtain ⟨given, hmem, heq⟩ := ih h
          exact ⟨given, List.mem_cons_of_mem _ hmem, heq⟩

/-- A valid list on record is one that was published. -/
theorem published_of_mem_record {published : List (Write Publication)}
    (h : crl ∈ record (published.map (Write.map Publication.list))) (hvalid : crl.isValid = true) :
    ∃ p, Write.ingest p ∈ published ∧ crl = p.list := by
  obtain ⟨given, hgiven, heq⟩ := mem_record h
  obtain ⟨w, hw, hmap⟩ := List.mem_map.1 hgiven
  cases w with
  | invalidate issuer => cases hmap
  | ingest p =>
      obtain rfl := Write.ingest.inj hmap
      exact ⟨p, hw, by rw [heq, hvalid]; rfl⟩

theorem filter_isValid_and (q : RevocationList → Bool) (lists : List RevocationList) :
    lists.filter (fun crl => crl.isValid && q crl) = (lists.filter (·.isValid)).filter q := by
  rw [List.filter_filter]
  exact List.filter_congr fun crl _ => Bool.and_comm ..

/-- Lists that are not valid are never found. -/
theorem repository_congr {s t : RevocationListStore}
    (h : s.lists.filter (·.isValid) = t.lists.filter (·.isValid)) :
    s.repository = t.repository := by
  -- Either lookup asks for lists that are valid and meet a condition of its own.
  have hfilter : ∀ q : RevocationList → Bool,
      s.lists.filter (fun crl => crl.isValid && q crl) =
        t.lists.filter fun crl => crl.isValid && q crl := by
    intro q
    rw [filter_isValid_and, filter_isValid_and, h]
  have hissuer : s.findValidByIssuer? = t.findValidByIssuer? := by
    funext issuer
    rw [findValidByIssuer?, findValidByIssuer?, ← List.head?_filter, ← List.head?_filter]
    exact congrArg List.head? (hfilter (isOf issuer))
  have hcountry : s.findValidByCountry? = t.findValidByCountry? := by
    funext country
    exact congrArg latest? (hfilter _)
  simp only [repository, refusing, hissuer, hcountry]

/-- What a history of publications and invalidations makes of the empty store. -/
def ofPublished (published : List (Write Publication)) : RevocationListStore :=
  ofHistory (published.map (Write.map Publication.list))

end RevocationListStore

namespace RevocationChecker

open RevocationListStore

/-- Which list a certificate is checked against after a history, and by which lookup. -/
inductive Consults (history : List (Write RevocationList)) (c : Certificate)
    (countryFallback : Bool) : Option (RevocationList × CrlSource) → Prop
  | own {crl : RevocationList} :
      standing? c.issuer history = some crl →
        Consults history c countryFallback (some (crl, .issuer))
  | fallback {crl : RevocationList} {country : String} :
      standing? c.issuer history = none → countryFallback = true → c.country = some country →
        IsLatest crl (validIn country history) →
          Consults history c countryFallback (some (crl, .country))
  | nothing :
      standing? c.issuer history = none →
        (countryFallback = true → ∀ country ∈ c.country, validIn country history = []) →
          Consults history c countryFallback none

theorem find_ofHistory (history : List (Write RevocationList)) (c : Certificate)
    (countryFallback : Bool) :
    ∃ found, (RevocationChecker.mk (ofHistory history).repository countryFallback).find c =
        .ok found ∧ Consults history c countryFallback found := by
  have hown : (ofHistory history).repository.findValidByIssuer c.issuer =
      .ok (standing? c.issuer history) := by
    rw [← findValidByIssuer?_ofHistory]
    rfl
  unfold find
  rw [hown]
  cases hstanding : standing? c.issuer history with
  | some crl => exact ⟨_, rfl, .own hstanding⟩
  | none =>
      cases countryFallback with
      | false => exact ⟨none, rfl, .nothing hstanding (by simp)⟩
      | true =>
          cases hcountry : c.country with
          | none => exact ⟨none, rfl, .nothing hstanding (by simp [hcountry])⟩
          | some country =>
              have hfind : (ofHistory history).repository.findValidByCountry country =
                  .ok (latest? (validIn country history)) := by
                rw [← findValidByCountry?_ofHistory]
                rfl
              refine ⟨_, bind_eq_ok_iff.2 ⟨none, rfl, bind_eq_ok_iff.2 ⟨_, hfind, rfl⟩⟩, ?_⟩
              cases hlatest : latest? (validIn country history) with
              | some crl => exact .fallback hstanding rfl hcountry (isLatest_of_latest? hlatest)
              | none =>
                  refine .nothing hstanding fun _ other hother => ?_
                  obtain rfl := Option.some.inj (hcountry.symm.trans hother)
                  exact latest?_eq_none_iff.1 hlatest

/-- The verdict that a history calls for. -/
inductive Verdict (published : List (Write Publication)) (c : Certificate) (now : Timestamp)
    (countryFallback : Bool) : RevocationCheck → Prop
  | unchecked :
      Consults (published.map (Write.map Publication.list)) c countryFallback none →
        Verdict published c now countryFallback ⟨false, false, .notAvailable, none⟩
  | judged {p : Publication} {source : CrlSource} {check : RevocationCheck} :
      Write.ingest p ∈ published →
        Consults (published.map (Write.map Publication.list)) c countryFallback
          (some (p.list, source)) →
          p.Judges c now source check → Verdict published c now countryFallback check

theorem published_of_consults {published : List (Write Publication)} {c : Certificate}
    {countryFallback : Bool} {crl : RevocationList} {source : CrlSource}
    (h : Consults (published.map (Write.map Publication.list)) c countryFallback
      (some (crl, source))) :
    ∃ p, Write.ingest p ∈ published ∧ crl = p.list := by
  cases h with
  | own hstanding =>
      obtain ⟨hmem, hvalid⟩ := isValid_of_standing? hstanding
      exact published_of_mem_record hmem hvalid
  | fallback _ _ _ hlatest =>
      obtain ⟨before, after, hlists, _⟩ := hlatest
      have hmem : crl ∈ before ++ crl :: after := List.mem_append_cons_self
      rw [← hlists] at hmem
      obtain ⟨hmem, hmatch⟩ := List.mem_filter.1 hmem
      exact published_of_mem_record hmem (Bool.and_eq_true_iff.1 hmatch).1

/-- After every history a check gives the verdict that the history calls for, and would give the
same over any store that holds the same valid lists. -/
theorem check_ofPublished (published : List (Write Publication)) (c : Certificate)
    (now : Timestamp) (countryFallback : Bool) :
    ∃ check,
      (RevocationChecker.mk (ofPublished published).repository countryFallback).check c now =
        .ok check ∧
      Verdict published c now countryFallback check ∧
      ∀ s : RevocationListStore,
        s.lists.filter (·.isValid) = (ofPublished published).lists.filter (·.isValid) →
          (RevocationChecker.mk s.repository countryFallback).check c now = .ok check := by
  obtain ⟨found, hfind, hconsults⟩ :=
    find_ofHistory (published.map (Write.map Publication.list)) c countryFallback
  have hcheck : ∃ check,
      (RevocationChecker.mk (ofPublished published).repository countryFallback).check c now =
        .ok check ∧ Verdict published c now countryFallback check := by
    cases found with
    | none => exact ⟨_, bind_eq_ok_iff.2 ⟨none, hfind, rfl⟩, .unchecked hconsults⟩
    | some consulted =>
        obtain ⟨crl, source⟩ := consulted
        obtain ⟨p, hpublished, rfl⟩ := published_of_consults hconsults
        refine ⟨_, bind_eq_ok_iff.2 ⟨some (p.list, source), hfind, rfl⟩, ?_⟩
        exact .judged hpublished hconsults (p.judges_ofList c now source)
  obtain ⟨check, hcheck, hverdict⟩ := hcheck
  refine ⟨check, hcheck, hverdict, ?_⟩
  intro s hvalid
  rw [repository_congr hvalid]
  exact hcheck

end RevocationChecker

end Mrtd
