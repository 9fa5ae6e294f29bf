import Mrtd.Proofs.Identity
import Mrtd.Proofs.Store.Files
import Mrtd.Proofs.Store.Insertions

/-!
What loading makes of the certificates of a store directory. The files are gone through directory by
directory and name by name; the certificates of those that are accepted are inserted one after the
other, while counters run along. The invariant of these loops is `Tallies`: after some files, the
store is what inserting their certificates makes of the empty store, and the counters add up.
-/

namespace Mrtd

namespace StoreDirectory

variable {fs : FileSystem} {path : String} {store : LoadedStore} {found : List Certificate}
  {rejected : Nat}

/-- The store and its counters after some certificates were found and some files rejected. -/
structure Tallies (store : LoadedStore) (found : List Certificate) (rejected : Nat) : Prop where
  certificates_eq : store.certificates = .ofList found
  counted : store.statistics.certificates = store.certificates.size
  total : store.statistics.certificates + store.statistics.duplicates = found.length
  skipped : store.statistics.skipped = rejected
  lists_eq : store.lists = .empty

theorem tallies_empty : Tallies .empty [] 0 :=
  ⟨rfl, rfl, rfl, rfl, rfl⟩

theorem Tallies.addCertificate (h : Tallies store found rejected) (c : Certificate) :
    Tallies (addCertificate store c) (found ++ [c]) rejected := by
  obtain ⟨hcertificates, hcounted, htotal, hskipped, hlists⟩ := h
  have hofList : store.certificates.insert c = .ofList (found ++ [c]) := by
    rw [hcertificates, CertificateStore.ofList, CertificateStore.ofList, List.foldl_append]
    rfl
  cases hheld : store.certificates.holds c.fingerprint with
  | true =>
      rw [addCertificate_of_held hheld]
      refine ⟨hofList, ?_, ?_, hskipped, hlists⟩
      · rw [CertificateStore.insert_of_holds hheld]
        exact hcounted
      · rw [List.length_append]
        exact congrArg (· + 1) htotal
  | false =>
      rw [addCertificate_of_new hheld]
      refine ⟨hofList, ?_, ?_, hskipped, hlists⟩
      · rw [CertificateStore.size, CertificateStore.certificates_insert hheld, List.length_append]
        exact congrArg (· + 1) hcounted
      · simp only [List.length_append, List.length_singleton]
        omega

theorem Tallies.foldl_addCertificate (h : Tallies store found rejected) (cs : List Certificate) :
    Tallies (cs.foldl StoreDirectory.addCertificate store) (found ++ cs) rejected := by
  induction cs generalizing store found with
  | nil => rwa [List.append_nil]
  | cons c rest ih =>
      rw [List.append_cons]
      exact ih (h.addCertificate c)

/-- A file adds all its certificates, or itself to the files that were skipped. -/
theorem Tallies.addCertificates (h : Tallies store found rejected)
    (file : Except LoadFailure (List Certificate)) :
    Tallies (addCertificates store file) (found ++ contribution file)
      (rejected + [file].countP isRejected) := by
  cases file with
  | ok cs => exact h.foldl_addCertificate cs
  | error failure =>
      obtain ⟨hcertificates, hcounted, htotal, hskipped, hlists⟩ := h
      rw [contribution, List.append_nil]
      exact ⟨hcertificates, hcounted, htotal, congrArg (· + 1) hskipped, hlists⟩

theorem Tallies.foldl_addCertificates (h : Tallies store found rejected)
    (files : List (Except LoadFailure (List Certificate))) :
    Tallies (files.foldl StoreDirectory.addCertificates store) (found ++ files.flatMap contribution)
      (rejected + files.countP isRejected) := by
  induction files generalizing store found rejected with
  | nil => simpa using h
  | cons file rest ih =>
      have hrest := ih (h.addCertificates file)
      rw [List.append_assoc, Nat.add_assoc, ← List.countP_append] at hrest
      exact hrest

/-- What comes of the files of a directory of certificates, in the order of their names. -/
def readingsIn (fs : FileSystem) (path : String) (directory : String × CertificateType) :
    List (Except LoadFailure (List Certificate)) :=
  (filesOf fs (Path.entry path directory.1) certificateSuffixes).map fun file =>
    readCertificates fs file directory.2

/-- What comes of all files of certificates, directory by directory. -/
def certificateReadings (fs : FileSystem) (path : String) :
    List (Except LoadFailure (List Certificate)) :=
  certificateDirectories.flatMap (readingsIn fs path)

/-- What comes of the files of revocation lists, in the order of their names. -/
def listReadings (fs : FileSystem) (path : String) :
    List (Except LoadFailure (List RevocationList)) :=
  (filesOf fs (Path.entry path listDirectory) listSuffixes).map (readLists fs)

theorem load_eq (hdirectory : fs.isDirectory path = true) :
    load fs path = .ok (addLists ((certificateReadings fs path).foldl addCertificates .empty)
      (listReadings fs path)) := by
  have hdirectories : certificateDirectories.foldl (addDirectory fs path) .empty =
      (certificateReadings fs path).foldl addCertificates .empty := by
    rw [certificateReadings, List.foldl_flatMap]
    simp only [readingsIn, List.foldl_map]
    rfl
  rw [load, if_pos hdirectory, hdirectories]
  rfl

/-- What a directory finds is of its role. -/
theorem type_of_mem_readingsIn {directory : String × CertificateType} {c : Certificate}
    (h : c ∈ (readingsIn fs path directory).flatMap contribution) : c.type = directory.2 := by
  obtain ⟨reading, hreading, hc⟩ := List.mem_flatMap.1 h
  obtain ⟨file, _, rfl⟩ := List.mem_map.1 hreading
  obtain ⟨der, hder⟩ := exists_of_mem_contribution hc
  obtain ⟨read, hofDer, rfl⟩ := map_eq_ok_iff.1 hder
  exact (Certificate.ofDer_record hofDer).1

/-- What loading makes of a store directory. A file is accepted or rejected as a whole, and the
counters and the certificates that are held follow from what the accepted files hold. -/
structure Accounts (fs : FileSystem) (path : String) (store : LoadedStore) : Prop where
  /-- The files of a directory are gone through in the order of their names. -/
  byName : ∀ directory ∈ certificateDirectories,
    IsByName fs (Path.entry path directory.1) certificateSuffixes
      (filesOf fs (Path.entry path directory.1) certificateSuffixes)
  outcome : ∀ directory ∈ certificateDirectories,
    ∀ file ∈ filesOf fs (Path.entry path directory.1) certificateSuffixes,
      Outcome fs "CERTIFICATE" (certificateIn file directory.2) file
        (readCertificates fs file directory.2)
  listOutcome : ∀ file ∈ filesOf fs (Path.entry path listDirectory) listSuffixes,
    Outcome fs "X509 CRL" RevocationList.ofDer file (readLists fs file)
  /-- One certificate that cannot be read keeps all others of its file out. -/
  spoiled : ∀ directory ∈ certificateDirectories,
    ∀ file ∈ filesOf fs (Path.entry path directory.1) certificateSuffixes,
      ∀ data ders der e, fs.fileContents? file = some data → Holds "CERTIFICATE" data ders →
        der ∈ ders → Certificate.ofDer directory.2 der = .error e →
          contribution (readCertificates fs file directory.2) = []
  typed : ∀ directory ∈ certificateDirectories,
    ∀ c ∈ (readingsIn fs path directory).flatMap contribution, c.type = directory.2
  /-- Of every fingerprint the first certificate is held that an accepted file holds. -/
  stored_eq : store.certificates.certificates =
    CertificateStore.firsts ((certificateReadings fs path).flatMap contribution)
  mem_stored_iff : ∀ c, c ∈ store.certificates.certificates ↔
    CertificateStore.IsFirst ((certificateReadings fs path).flatMap contribution) c
  /-- A certificate of several directories has the role of the first of them. -/
  type_of_first : ∀ before directory after,
    certificateDirectories = before ++ directory :: after →
      ∀ c ∈ (readingsIn fs path directory).flatMap contribution,
        (∀ other ∈ before, ∀ d ∈ (readingsIn fs path other).flatMap contribution,
          d.fingerprint ≠ c.fingerprint) →
            ∃ held ∈ store.certificates.certificates,
              held.fingerprint = c.fingerprint ∧ held.type = directory.2
  distinct : (store.certificates.certificates.map (·.fingerprint)).Nodup
  certificates : store.statistics.certificates = store.certificates.size
  duplicates : store.statistics.certificates + store.statistics.duplicates =
    ((certificateReadings fs path).flatMap contribution).length
  skipped : store.statistics.skipped =
    (certificateReadings fs path).countP isRejected + (listReadings fs path).countP isRejected
  crls : store.statistics.crls = ((listReadings fs path).flatMap contribution).length

/-- Of what several directories find under a fingerprint, that of the first is held. -/
theorem exists_held_of_first {before after : List (String × CertificateType)}
    {directory : String × CertificateType} {c : Certificate}
    (hsplit : certificateDirectories = before ++ directory :: after)
    (hc : c ∈ (readingsIn fs path directory).flatMap contribution)
    (hbefore : ∀ other ∈ before, ∀ d ∈ (readingsIn fs path other).flatMap contribution,
      d.fingerprint ≠ c.fingerprint) :
    ∃ held ∈ CertificateStore.firsts ((certificateReadings fs path).flatMap contribution),
      held.fingerprint = c.fingerprint ∧ held.type = directory.2 := by
  have hfound : (certificateReadings fs path).flatMap contribution =
      before.flatMap (fun other => (readingsIn fs path other).flatMap contribution) ++
        ((readingsIn fs path directory).flatMap contribution ++
          after.flatMap fun other => (readingsIn fs path other).flatMap contribution) := by
    rw [certificateReadings, hsplit, List.flatMap_assoc, List.flatMap_append, List.flatMap_cons]
  have hnone : (before.flatMap fun other => (readingsIn fs path other).flatMap contribution).find?
      (·.fingerprint == c.fingerprint) = none := by
    refine List.find?_eq_none.2 fun d hd => ?_
    obtain ⟨other, hother, hd⟩ := List.mem_flatMap.1 hd
    simpa using hbefore other hother d hd
  have hsome : (((readingsIn fs path directory).flatMap contribution).find?
      (·.fingerprint == c.fingerprint)).isSome = true :=
    List.find?_isSome.2 ⟨c, hc, beq_self_eq_true _⟩
  obtain ⟨held, hheld⟩ := Option.isSome_iff_exists.1 hsome
  have hfirst : (CertificateStore.firsts ((certificateReadings fs path).flatMap contribution)).find?
      (·.fingerprint == c.fingerprint) = some held := by
    rw [CertificateStore.find?_firsts, hfound, List.find?_append, hnone, List.find?_append, hheld]
    rfl
  refine ⟨held, List.mem_of_find?_eq_some hfirst, ?_, ?_⟩
  · exact eq_of_beq (List.find?_some hheld :)
  · exact type_of_mem_readingsIn (List.mem_of_find?_eq_some hheld)

/-- Every directory is loaded, file by file all or nothing, and the counters add up. -/
theorem load_accounts (hdirectory : fs.isDirectory path = true) :
    ∃ store, load fs path = .ok store ∧ Accounts fs path store := by
  obtain ⟨hcertificates, hcounted, htotal, hskipped, _⟩ :=
    tallies_empty.foldl_addCertificates (certificateReadings fs path)
  rw [List.nil_append] at hcertificates htotal
  rw [Nat.zero_add] at hskipped
  refine ⟨_, load_eq hdirectory, ?_⟩
  have hstored :
      ((certificateReadings fs path).foldl addCertificates .empty).certificates.certificates =
        CertificateStore.firsts ((certificateReadings fs path).flatMap contribution) := by
    rw [hcertificates, CertificateStore.certificates_ofList]
  refine {
    byName := fun directory _ => isByName_filesOf ..
    outcome := fun directory _ file _ => outcome_readValues
    listOutcome := fun file _ => outcome_readValues
    spoiled := fun directory _ file _ data ders der e hdata hholds hder hfail =>
      contribution_eq_nil hdata hholds hder (map_eq_error_iff.2 hfail)
    typed := fun directory _ c => type_of_mem_readingsIn
    stored_eq := hstored
    mem_stored_iff := fun c => hstored ▸ CertificateStore.mem_firsts_iff
    type_of_first := fun before directory after hsplit c hc hbefore =>
      hstored ▸ exists_held_of_first hsplit hc hbefore
    distinct := hstored ▸ CertificateStore.nodup_firsts _
    certificates := hcounted
    duplicates := htotal
    skipped := congrArg (· + (listReadings fs path).countP isRejected) hskipped
    crls := (Sorting.sortBy_perm _ _).length_eq }

end StoreDirectory

namespace Specimen

open StoreDirectory

/-- A block with the signer, and one that holds no certificate. -/
def spoiledBundle : Bytes := Bytes.ofString <|
  "-----BEGIN CERTIFICATE-----\n" ++
  "MGQwVwIBUTAFBgMrZXAwDzENMAsGA1UEAxMEUm9vdDAeFw03MDAxMDEwMDAwMDBa\n" ++
  "Fw03MTAxMDEwMDAwMDBaMA0xCzAJBgNVBAMTAkRTMAswBQYDK2VwAwIABzAFBgMr\n" ++
  "ZXADAgAH\n" ++
  "-----END CERTIFICATE-----\n" ++
  "-----BEGIN CERTIFICATE-----\nAAAA\n-----END CERTIFICATE-----\n"

/-- A store with one certificate in two directories and with a file of either kind that is
rejected. -/
def shelf : FileSystem :=
  (FileTree.directory [("store", .directory [
    ("csca", .directory [("root.der", .file signerOctets)]),
    ("dsc", .directory [("again.CRT", .file signerOctets), ("bundle.pem", .file spoiledBundle),
      ("notes.txt", .file [])]),
    ("crl", .directory [("broken.crl", .file []), ("root.crl", .file listOctets)])])]).fileSystem []

theorem shelf_accounts :
    shelf.isDirectory "store" = true ∧
      ∃ store, load shelf "store" = .ok store ∧ Accounts shelf "store" store ∧
        store.statistics = ⟨1, 1, 1, 2⟩ ∧
        store.certificates.certificates.map (·.type) = [.csca] := by
  have hdirectory : shelf.isDirectory "store" = true := by decide +kernel
  have hloaded : (load shelf "store").toOption.map (fun store =>
      (store.statistics, store.certificates.certificates.map (·.type))) =
        some (⟨1, 1, 1, 2⟩, [.csca]) := by decide +kernel
  obtain ⟨store, hload, haccounts⟩ := load_accounts hdirectory
  rw [hload] at hloaded
  obtain ⟨hstatistics, htypes⟩ := Prod.mk.inj (Option.some.inj hloaded)
  exact ⟨hdirectory, store, hload, haccounts, hstatistics, htypes⟩

end Specimen

end Mrtd
