import Mrtd.Certificate.Reader
import Mrtd.FileTree
import Mrtd.RevocationList.Reader
import Mrtd.Sorting
import Mrtd.Store.Certificates
import Mrtd.Store.RevocationLists

/-!
Store directories. Certificates lie in one subdirectory for each role and revocation lists in
another; a file holds one value in binary or any number of armoured blocks. A file that cannot be
read as a whole is skipped.
-/

namespace Mrtd

/-- Why a file or a store directory could not be used. -/
inductive LoadFailure where
  | noStore (path : String)
  | unreadable (path : String)
  | armour (path : String) (fault : Text.Pem.Fault)
  | noCertificate (path : String)
  | noList (path : String)
  | parse (path : String) (error : Error)
deriving DecidableEq, Repr

namespace LoadFailure

/-- The wording of a failure, followed by that of its cause. -/
def messages : LoadFailure → List String
  | noStore path => ["store directory " ++ path ++ " does not exist"]
  | unreadable path => ["reading " ++ path, "no such file"]
  | armour path fault => ["decoding PEM " ++ path, fault.message]
  | noCertificate path => ["no certificate in " ++ path]
  | noList path => ["no CRL in " ++ path]
  | parse path error => ["parsing " ++ path, error.message]

end LoadFailure

/-- What became of the files of a store directory. -/
structure LoadStatistics where
  certificates : Nat
  duplicates : Nat
  crls : Nat
  /-- Files that could not be read. -/
  skipped : Nat
deriving DecidableEq, Repr

/-- The stores filled from a directory. -/
structure LoadedStore where
  certificates : CertificateStore
  lists : RevocationListStore
  statistics : LoadStatistics
deriving DecidableEq, Repr

def LoadedStore.empty : LoadedStore := ⟨.empty, .empty, ⟨0, 0, 0, 0⟩⟩

namespace StoreDirectory

/-- Where the certificates of each role lie, in the order of loading. -/
def certificateDirectories : List (String × CertificateType) :=
  [("csca", .csca), ("dsc", .dsc), ("dsc_nc", .dscNc), ("mlsc", .mlsc)]

/-- The endings of certificate files. -/
def certificateSuffixes : List String := ["pem", "crt", "cer", "der"]

/-- Where revocation lists lie. -/
def listDirectory : String := "crl"

/-- The endings of files of revocation lists. -/
def listSuffixes : List String := ["crl", "pem", "der"]

/-- The directories of a store. -/
def directories (path : String) : List String :=
  path :: (certificateDirectories.map Prod.fst ++ [listDirectory]).map (Path.entry path)

/-- Armour may follow blanks. -/
def isArmoured (data : Bytes) : Bool :=
  Bytes.beginsWith Certificate.armourStart (data.dropWhile Text.isAsciiBlank)

/-- The encodings that a file holds: every armoured block with the label, or all its octets. -/
def encodings (path : String) (label : String) (empty : LoadFailure) (data : Bytes) :
    Except LoadFailure (List Bytes) := do
  if isArmoured data then
    match Text.Pem.readAll data with
    | .error fault => throw (.armour path fault)
    | .ok blocks =>
        match (blocks.filter (·.label == label)).map (·.contents) with
        | [] => throw empty
        | found => pure found
  else pure [data]

/-- The encodings in the file under a path. -/
def readEncodings (fs : FileSystem) (path label : String) (empty : LoadFailure) :
    Except LoadFailure (List Bytes) :=
  match fs.fileContents? path with
  | none => .error (.unreadable path)
  | some data => encodings path label empty data

/-- Every value of a file, each read from one of the encodings under a label. -/
def readValues {α : Type} (fs : FileSystem) (path label : String) (empty : LoadFailure)
    (read : Bytes → Except Error α) : Except LoadFailure (List α) := do
  (← readEncodings fs path label empty).mapM fun der => (read der).mapError (.parse path)

/-- A certificate of a file, which remembers the name of the file. -/
def certificateIn (path : String) (type : CertificateType) (der : Bytes) :
    Except Error Certificate :=
  (Certificate.ofDer type der).map (·.withProvenance ((Path.fileName path).getD "") false)

/-- Every certificate of a file. -/
def readCertificates (fs : FileSystem) (path : String) (type : CertificateType) :
    Except LoadFailure (List Certificate) :=
  readValues fs path "CERTIFICATE" (.noCertificate path) (certificateIn path type)

/-- The first certificate of a file, all of which must be readable. -/
def readCertificate (fs : FileSystem) (path : String) (type : CertificateType) :
    Except LoadFailure Certificate := do
  match ← readCertificates fs path type with
  | c :: _ => pure c
  | [] => throw (.noCertificate path)

/-- Every revocation list of a file. -/
def readLists (fs : FileSystem) (path : String) : Except LoadFailure (List RevocationList) :=
  readValues fs path "X509 CRL" (.noList path) RevocationList.ofDer

/-- The name ends in one of some suffixes, in any letter case. -/
def hasSuffix (suffixes : List String) (name : String) : Bool :=
  suffixes.contains (Text.asciiLower ((Path.suffix name).getD ""))

/-- The paths of the files of a directory that have one of some endings, by name. -/
def filesOf (fs : FileSystem) (path : String) (suffixes : List String) : List String :=
  let names := (fs.fileNames path).filter (hasSuffix suffixes)
  (Sorting.sortBy (fun a b => decide (a < b)) names).map (Path.entry path)

/-- What a file contributes to a store: all that it holds, or nothing if any of it cannot be read. -/
def contribution {α : Type} : Except LoadFailure (List α) → List α
  | .ok found => found
  | .error _ => []

/-- A file that could not be read. -/
def isRejected {α : Type} : Except LoadFailure (List α) → Bool
  | .ok _ => false
  | .error _ => true

/-- Inserts a certificate and counts it. -/
def addCertificate (store : LoadedStore) (c : Certificate) : LoadedStore :=
  match store.certificates.add c with
  | (true, certificates) =>
      { store with
        certificates
        statistics.certificates := store.statistics.certificates + 1 }
  | (false, certificates) =>
      { store with
        certificates
        statistics.duplicates := store.statistics.duplicates + 1 }

theorem addCertificate_of_held {store : LoadedStore} {c : Certificate}
    (h : store.certificates.holds c.fingerprint = true) :
    addCertificate store c = { store with
      certificates := store.certificates.insert c
      statistics.duplicates := store.statistics.duplicates + 1 } := by
  rw [addCertificate, CertificateStore.add_eq, h]
  rfl

theorem addCertificate_of_new {store : LoadedStore} {c : Certificate}
    (h : store.certificates.holds c.fingerprint = false) :
    addCertificate store c = { store with
      certificates := store.certificates.insert c
      statistics.certificates := store.statistics.certificates + 1 } := by
  rw [addCertificate, CertificateStore.add_eq, h]
  rfl

/-- Inserts the certificates of one file. -/
def addCertificates (store : LoadedStore) : Except LoadFailure (List Certificate) → LoadedStore
  | .error _ => { store with statistics.skipped := store.statistics.skipped + 1 }
  | .ok found => found.foldl addCertificate store

/-- Inserts the certificates of one subdirectory. -/
def addDirectory (fs : FileSystem) (path : String) (store : LoadedStore)
    (directory : String × CertificateType) : LoadedStore :=
  (filesOf fs (Path.entry path directory.1) certificateSuffixes).foldl (fun store file =>
    addCertificates store (readCertificates fs file directory.2)) store

/-- Ingests the lists of all files, older ones first, so that the newest list of an issuer is the
valid one. -/
def addLists (store : LoadedStore) (files : List (Except LoadFailure (List RevocationList))) :
    LoadedStore :=
  let found := files.flatMap contribution
  let sorted := Sorting.sortBy (fun a b => decide (a.thisUpdate < b.thisUpdate)) found
  { store with
    lists := sorted.foldl RevocationListStore.ingest store.lists
    statistics.crls := sorted.length
    statistics.skipped := store.statistics.skipped + files.countP isRejected }

/-- The stores of a directory. -/
def load (fs : FileSystem) (path : String) : Except LoadFailure LoadedStore :=
  if fs.isDirectory path then
    let store := certificateDirectories.foldl (addDirectory fs path) LoadedStore.empty
    let files := filesOf fs (Path.entry path listDirectory) listSuffixes
    .ok (addLists store (files.map (readLists fs)))
  else .error (.noStore path)

end StoreDirectory

end Mrtd
