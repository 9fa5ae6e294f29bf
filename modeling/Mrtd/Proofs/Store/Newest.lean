import Mathlib.Data.Int.Order.Basic
import Mrtd.Proofs.Store.Loading
import Mrtd.Proofs.Trust.Revocation

/-!
What loading makes of the revocation lists of a store directory. All lists are sorted by date before
they are ingested, whoever issued them. The last list of an issuer is then the one that stands, and
as sorting is stable, it is the latest of this issuer, the last among equals in the order of files.
-/

namespace Mrtd

namespace RevocationListStore

variable {s s' : RevocationListStore} {found found' lists : List RevocationList}
  {crl other : RevocationList} {issuer : String}

theorem IsLatest.mem (h : IsLatest crl lists) : crl ∈ lists := by
  obtain ⟨before, after, rfl, _⟩ := h
  exact List.mem_append_right before List.mem_cons_self

theorem IsLatest.le (h : IsLatest crl lists) (hother : other ∈ lists) :
    other.thisUpdate ≤ crl.thisUpdate := by
  obtain ⟨before, after, rfl, hbefore, hafter⟩ := h
  rcases List.mem_append.1 hother with hother | hother
  · exact hbefore other hother
  · rcases List.mem_cons.1 hother with rfl | hother
    · exact Int.le_refl _
    · exact Int.le_of_lt (hafter other hother)

/-- The lists in the order of their dates. -/
def byDate (lists : List RevocationList) : List RevocationList :=
  Sorting.sortBy (fun a b => decide (a.thisUpdate < b.thisUpdate)) lists

/-- The last list of an issuer by date is its latest. -/
theorem isLatest_of_byDate {front : List RevocationList}
    (h : (byDate lists).filter (isOf issuer) = front ++ [crl]) :
    IsLatest crl (lists.filter (isOf issuer)) := by
  obtain ⟨before, after, hsplit, hbefore, hafter⟩ :=
    Sorting.split_of_sorted_last (Sorting.isRanking_key RevocationList.thisUpdate) h
  refine ⟨before, after, hsplit, fun other hother => ?_, fun other hother => ?_⟩
  · exact Int.not_lt.1 (of_decide_eq_false (hbefore other hother))
  · exact of_decide_eq_true (hafter other hother)

/-- The store that some lists are ingested into, one after the other. -/
def ofIngested (lists : List RevocationList) : RevocationListStore :=
  ofHistory (lists.map .ingest)

theorem foldl_ingest (lists : List RevocationList) :
    lists.foldl ingest empty = ofIngested lists := by
  rw [ofIngested, ofHistory, List.foldl_map]
  rfl

/-- A list as it is ingested. -/
def flagged (crl : RevocationList) : RevocationList :=
  { crl with isValid := true }

/-- Nothing but the last list of an issuer stands. -/
theorem standing?_ingested {front : List RevocationList}
    (h : lists.filter (isOf issuer) = front ++ [crl]) :
    standing? issuer (lists.map .ingest) = some (flagged crl) := by
  have hfind : lists.reverse.find? (isOf issuer) = some crl := by
    rw [← List.head?_filter, List.filter_reverse, h, List.reverse_append]
    rfl
  rw [standing?, ← List.map_reverse, List.find?_map]
  exact congrArg (fun last => (last.map Write.ingest).bind Write.added?) hfind

theorem map_flagged_record (lists : List RevocationList) :
    (record (lists.map .ingest)).map flagged = lists.map flagged := by
  induction lists with
  | nil => rfl
  | cons crl rest ih => exact congrArg (flagged crl :: ·) ih

/-- A store keeps all lists that were found, and of every issuer the newest is the valid one. -/
structure KeepsNewest (found : List RevocationList) (s : RevocationListStore) : Prop where
  /-- Each list is held once, and only its flag can differ. -/
  held : (s.lists.map flagged).Perm found
  newest : ∀ issuer, ∀ given ∈ found, isOf issuer given = true →
    ∃ crl, IsLatest crl (found.filter (isOf issuer)) ∧
      s.lists.filter (isValidFor issuer) = [crl] ∧ s.findValidByIssuer? issuer = some crl

theorem keepsNewest_byDate (hvalid : ∀ crl ∈ found, crl.isValid = true) :
    KeepsNewest found (ofIngested (byDate found)) := by
  have hflagged : ∀ crl ∈ found, flagged crl = crl := by
    intro crl hcrl
    rw [flagged, ← hvalid crl hcrl]
  have hsorted : (byDate found).Perm found := Sorting.sortBy_perm _ _
  constructor
  · rw [ofIngested, lists_ofHistory, map_flagged_record]
    refine (hsorted.map flagged).trans (.of_eq ?_)
    rw [List.map_congr_left hflagged, List.map_id']
  · intro issuer given hgiven hof
    have hne : (byDate found).filter (isOf issuer) ≠ [] :=
      List.ne_nil_of_mem (List.mem_filter.2 ⟨hsorted.mem_iff.2 hgiven, hof⟩)
    obtain ⟨front, crl, hlast⟩ :
        ∃ front crl, (byDate found).filter (isOf issuer) = front ++ [crl] :=
      (List.eq_nil_or_concat' _).resolve_left hne
    have hlatest : IsLatest crl (found.filter (isOf issuer)) := isLatest_of_byDate hlast
    have hstanding : standing? issuer ((byDate found).map .ingest) = some crl := by
      rw [standing?_ingested hlast]
      exact congrArg some (hflagged crl (List.mem_filter.1 hlatest.mem).1)
    refine ⟨crl, hlatest, ?_, ?_⟩
    · rw [ofIngested, filter_isValidFor_ofHistory, hstanding]
      rfl
    · rw [ofIngested, findValidByIssuer?_ofHistory, hstanding]

theorem KeepsNewest.find_eq_none (h : KeepsNewest found s)
    (hnone : ∀ given ∈ found, ¬isOf issuer given = true) : s.findValidByIssuer? issuer = none := by
  refine List.find?_eq_none.2 fun crl hcrl hvalid => ?_
  have hmem : flagged crl ∈ found := h.held.mem_iff.1 (List.mem_map_of_mem hcrl)
  exact hnone _ hmem (Bool.and_eq_true_iff.1 hvalid).2

/-- The order in which lists are found decides between lists of one date only. -/
theorem KeepsNewest.agree (h : KeepsNewest found s) (h' : KeepsNewest found' s')
    (hperm : found'.Perm found) (issuer : String) :
    Option.Rel (fun crl crl' => crl' ∈ found ∧ crl'.thisUpdate = crl.thisUpdate)
      (s.findValidByIssuer? issuer) (s'.findValidByIssuer? issuer) := by
  by_cases hissued : ∃ given ∈ found, isOf issuer given = true
  · obtain ⟨given, hgiven, hof⟩ := hissued
    obtain ⟨crl, hlatest, _, hfind⟩ := h.newest issuer given hgiven hof
    obtain ⟨crl', hlatest', _, hfind'⟩ := h'.newest issuer given (hperm.mem_iff.2 hgiven) hof
    have hsame : (found'.filter (isOf issuer)).Perm (found.filter (isOf issuer)) :=
      hperm.filter _
    have hmem' : crl' ∈ found.filter (isOf issuer) := hsame.mem_iff.1 hlatest'.mem
    rw [hfind, hfind']
    refine .some ⟨(List.mem_filter.1 hmem').1, Int.le_antisymm (hlatest.le hmem') ?_⟩
    exact hlatest'.le (hsame.mem_iff.2 hlatest.mem)
  · have hnone : ∀ given ∈ found, ¬isOf issuer given = true := fun given hgiven hof =>
      hissued ⟨given, hgiven, hof⟩
    have hnone' : ∀ given ∈ found', ¬isOf issuer given = true := fun given hgiven =>
      hnone given (hperm.mem_iff.1 hgiven)
    rw [h.find_eq_none hnone, h'.find_eq_none hnone']
    exact .none

end RevocationListStore

namespace StoreDirectory

open RevocationListStore

variable {fs fs' : FileSystem} {path : String} {rename : String → String}

/-- The lists in the accepted files of a store directory, in the order of their names and then of
their places in the file. -/
def foundLists (fs : FileSystem) (path : String) : List RevocationList :=
  (listReadings fs path).flatMap contribution

/-- The lists in the file with a name. -/
def listsNamed (fs : FileSystem) (path name : String) : List RevocationList :=
  contribution (readLists fs (Path.entry (Path.entry path listDirectory) name))

/-- The names of the files of revocation lists. -/
def listNames (fs : FileSystem) (path : String) : List String :=
  (fs.fileNames (Path.entry path listDirectory)).filter (hasSuffix listSuffixes)

theorem foundLists_perm_flatMap (fs : FileSystem) (path : String) :
    (foundLists fs path).Perm ((listNames fs path).flatMap (listsNamed fs path)) := by
  rw [foundLists, listReadings, filesOf, List.map_map, List.flatMap_map]
  exact (Sorting.sortBy_perm _ _).flatMap_right _

theorem isValid_of_mem_foundLists {crl : RevocationList} (h : crl ∈ foundLists fs path) :
    crl.isValid = true := by
  obtain ⟨reading, hreading, hcrl⟩ := List.mem_flatMap.1 h
  obtain ⟨file, _, rfl⟩ := List.mem_map.1 hreading
  obtain ⟨der, hder⟩ := exists_of_mem_contribution hcrl
  rw [RevocationList.ofDer] at hder
  split at hder
  · obtain rfl := Except.ok.inj hder
    rfl
  · cases hder

/-- The files of revocation lists of one store directory under other names in another one. -/
structure Renames (rename : String → String) (fs fs' : FileSystem) (path : String) : Prop where
  names : (fs'.fileNames (Path.entry path listDirectory)).Perm
    ((fs.fileNames (Path.entry path listDirectory)).map rename)
  /-- A file of lists remains one. -/
  suffix : ∀ name ∈ fs.fileNames (Path.entry path listDirectory),
    hasSuffix listSuffixes (rename name) = hasSuffix listSuffixes name
  contents : ∀ name ∈ fs.fileNames (Path.entry path listDirectory),
    fs'.fileContents? (Path.entry (Path.entry path listDirectory) (rename name)) =
      fs.fileContents? (Path.entry (Path.entry path listDirectory) name)

theorem Renames.foundLists_perm (h : Renames rename fs fs' path) :
    (foundLists fs' path).Perm (foundLists fs path) := by
  have hnames : (listNames fs' path).Perm ((listNames fs path).map rename) := by
    have hkept : listNames fs path = (fs.fileNames (Path.entry path listDirectory)).filter
        fun name => hasSuffix listSuffixes (rename name) :=
      List.filter_congr fun name hname => (h.suffix name hname).symm
    rw [hkept, ← Function.comp_def, ← List.filter_map]
    exact h.names.filter _
  have hlists : ∀ name ∈ listNames fs path, listsNamed fs' path (rename name) =
      listsNamed fs path name := by
    intro name hname
    unfold listsNamed readLists
    exact contribution_readValues_congr (h.contents name (List.mem_filter.1 hname).1)
  have hflat : ((listNames fs path).map rename).flatMap (listsNamed fs' path) =
      (listNames fs path).flatMap (listsNamed fs path) := by
    rw [List.flatMap_map]
    exact List.flatMap_congr hlists
  have hrenamed := hnames.flatMap_right (listsNamed fs' path)
  rw [hflat] at hrenamed
  exact (foundLists_perm_flatMap ..).trans (hrenamed.trans (foundLists_perm_flatMap ..).symm)

/-- What loading makes of the revocation lists of a store directory. -/
structure LoadsNewest (fs : FileSystem) (path : String) (store : LoadedStore) : Prop where
  byName : IsByName fs (Path.entry path listDirectory) listSuffixes
    (filesOf fs (Path.entry path listDirectory) listSuffixes)
  outcome : ∀ file ∈ filesOf fs (Path.entry path listDirectory) listSuffixes,
    Outcome fs "X509 CRL" RevocationList.ofDer file (readLists fs file)
  keepsNewest : KeepsNewest (foundLists fs path) store.lists
  /-- Under other names of the files, another list can be valid only if it has the same date. -/
  renamed : ∀ rename fs' store', Renames rename fs fs' path → load fs' path = .ok store' →
    ∀ issuer, Option.Rel
      (fun crl crl' => crl' ∈ foundLists fs path ∧ crl'.thisUpdate = crl.thisUpdate)
      (store.lists.findValidByIssuer? issuer) (store'.lists.findValidByIssuer? issuer)

theorem lists_of_load {store : LoadedStore} (h : load fs path = .ok store) :
    KeepsNewest (foundLists fs path) store.lists := by
  have hdirectory : fs.isDirectory path = true := by
    unfold load at h
    split at h
    · assumption
    · cases h
  obtain ⟨_, _, _, _, hempty⟩ := tallies_empty.foldl_addCertificates (certificateReadings fs path)
  rw [load_eq hdirectory] at h
  obtain rfl := Except.ok.inj h
  have hlists : (addLists ((certificateReadings fs path).foldl addCertificates .empty)
      (listReadings fs path)).lists = .ofIngested (byDate (foundLists fs path)) := by
    rw [← foldl_ingest, ← hempty]
    rfl
  rw [hlists]
  exact keepsNewest_byDate fun crl => isValid_of_mem_foundLists

/-- Whatever lists the files of a directory hold, loading leaves the newest of every issuer
valid. -/
theorem load_newest (hdirectory : fs.isDirectory path = true) :
    ∃ store, load fs path = .ok store ∧ LoadsNewest fs path store := by
  refine ⟨_, load_eq hdirectory, ?_⟩
  refine {
    byName := isByName_filesOf ..
    outcome := fun file _ => outcome_readValues
    keepsNewest := lists_of_load (load_eq hdirectory)
    renamed := fun rename fs' store' hrenames hload issuer =>
      (lists_of_load (load_eq hdirectory)).agree (lists_of_load hload) hrenames.foundLists_perm
        issuer }

end StoreDirectory

namespace Specimen

open Der StoreDirectory RevocationListStore

/-- A list of the root without entries, a year after the one in `listOctets`. -/
def laterElement : Der.Element :=
  construct Tag.sequence [
    construct Tag.sequence [ed25519.element, rootName.element, newYear 0x31],
    ed25519.element, ⟨Tag.bitString, [0, 7]⟩]

/-- Two files with this list, which are two lists to a store. -/
def laterOctets : Bytes := laterElement.encode
def laterLine : Bytes := laterOctets ++ [0x0A]

/-- A store directory with three lists of the root, the last of which has a name of its own. -/
def listShelf (last : String) : FileSystem :=
  (FileTree.directory [("store", .directory [
    ("crl", .directory [("latest.crl", .file laterOctets), ("old.der", .file listOctets),
      (last, .file laterLine)])])]).fileSystem []

/-- Gives the last list the first name. -/
def forward (name : String) : String :=
  if name = "z.CRL" then "a.pem" else name

/-- Of two lists of one date the one with the last name is valid, and renaming exchanges them. -/
theorem listShelf_newest :
    (listShelf "z.CRL").isDirectory "store" = true ∧
      ∃ store, load (listShelf "z.CRL") "store" = .ok store ∧
        LoadsNewest (listShelf "z.CRL") "store" store ∧
        Renames forward (listShelf "z.CRL") (listShelf "a.pem") "store" ∧
        (store.lists.findValidByIssuer? "CN=Root").map (·.id) = some (fingerprintOf laterLine) ∧
        ∃ store', load (listShelf "a.pem") "store" = .ok store' ∧
          (store'.lists.findValidByIssuer? "CN=Root").map (·.id) =
            some (fingerprintOf laterOctets) := by
  have hdirectory : (listShelf "z.CRL").isDirectory "store" = true := by decide +kernel
  have hdirectory' : (listShelf "a.pem").isDirectory "store" = true := by decide +kernel
  have hrenames : Renames forward (listShelf "z.CRL") (listShelf "a.pem") "store" :=
    ⟨by decide +kernel, by decide +kernel, by decide +kernel⟩
  have hvalid : (load (listShelf "z.CRL") "store").toOption.map (fun store =>
      (store.lists.findValidByIssuer? "CN=Root").map (·.id)) =
        some (some (fingerprintOf laterLine)) := by decide +kernel
  have hvalid' : (load (listShelf "a.pem") "store").toOption.map (fun store =>
      (store.lists.findValidByIssuer? "CN=Root").map (·.id)) =
        some (some (fingerprintOf laterOctets)) := by decide +kernel
  obtain ⟨store, hload, hnewest⟩ := load_newest hdirectory
  obtain ⟨store', hload', _⟩ := load_newest hdirectory'
  rw [hload] at hvalid
  rw [hload'] at hvalid'
  exact ⟨hdirectory, store, hload, hnewest, hrenames, Option.some.inj hvalid,
    store', hload', Option.some.inj hvalid'⟩

end Specimen

end Mrtd
