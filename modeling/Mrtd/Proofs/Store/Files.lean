import Mathlib.Data.List.Forall2
import Mathlib.Data.String.Basic
import Mrtd.Proofs.Sorting
import Mrtd.Store.Directory

/-!
The files of a store directory. Certificates and revocation lists are read alike: a file holds the
encodings in its armoured blocks with the label, or one encoding without armour, and it is accepted
exactly if each of them can be read. The files of a directory come in the order of their names.
-/

namespace Mrtd

section Steps

variable {ε α β : Type}

theorem mapM_eq_ok_iff {f : α → Except ε β} {as : List α} {bs : List β} :
    as.mapM f = .ok bs ↔ List.Forall₂ (fun a b => f a = .ok b) as bs := by
  induction as generalizing bs with
  | nil =>
      rw [List.forall₂_nil_left_iff]
      constructor
      · intro h
        exact (Except.ok.inj h).symm
      · rintro rfl
        rfl
  | cons a rest ih =>
      rw [List.mapM_cons, List.forall₂_cons_left_iff, bind_eq_ok_iff]
      constructor
      · rintro ⟨b, hb, hrest⟩
        obtain ⟨others, hothers, h⟩ := bind_eq_ok_iff.1 hrest
        exact ⟨b, others, hb, ih.1 hothers, (Except.ok.inj h).symm⟩
      · rintro ⟨b, others, hb, hothers, rfl⟩
        exact ⟨b, hb, bind_eq_ok_iff.2 ⟨others, ih.2 hothers, rfl⟩⟩

end Steps

namespace StoreDirectory

variable {α : Type} {fs : FileSystem} {path label file : String} {empty : LoadFailure}
  {read : Bytes → Except Error α} {data : Bytes} {ders : List Bytes} {found : List α}

/-- The encodings that octets hold under a label: those in the armoured blocks with the label, one at
least, or the octets themselves if they are not armoured. -/
inductive Holds (label : String) (data : Bytes) : List Bytes → Prop
  | armoured {blocks : List Text.Pem.Block} :
      isArmoured data = true → Text.Pem.readAll data = .ok blocks →
        (∃ block ∈ blocks, block.label = label) →
          Holds label data ((blocks.filter (·.label == label)).map (·.contents))
  | binary : isArmoured data = false → Holds label data [data]

theorem Holds.ne_nil (h : Holds label data ders) : ders ≠ [] := by
  cases h with
  | armoured _ _ hlabel =>
      obtain ⟨block, hmem, heq⟩ := hlabel
      exact List.ne_nil_of_mem
        (List.mem_map_of_mem (List.mem_filter.2 ⟨hmem, beq_iff_eq.2 heq⟩))
  | binary _ => exact List.cons_ne_nil _ _

theorem Holds.encodings_eq (h : Holds label data ders) :
    encodings path label empty data = .ok ders := by
  have hne : ders ≠ [] := h.ne_nil
  unfold encodings
  cases h with
  | armoured harmoured hblocks hlabel =>
      rw [if_pos harmoured, hblocks]
      dsimp only
      split
      · rename_i hnone
        exact absurd hnone hne
      · rfl
  | binary hbinary =>
      rw [if_neg (Bool.eq_false_iff.1 hbinary)]
      rfl

theorem Holds.eq {ders' : List Bytes} (h : Holds label data ders) (h' : Holds label data ders') :
    ders = ders' := by
  have hders : encodings "" label (.noStore "") data = .ok ders := h.encodings_eq
  exact Except.ok.inj (hders.symm.trans h'.encodings_eq)

theorem holds_of_encodings (h : encodings path label empty data = .ok ders) :
    Holds label data ders := by
  unfold encodings at h
  split at h
  · rename_i harmoured
    split at h
    · cases h
    · rename_i blocks hblocks
      split at h
      · cases h
      · rename_i found hfound
        obtain rfl := Except.ok.inj h
        obtain ⟨contents, hcontents⟩ := List.exists_mem_of_ne_nil _ hfound
        obtain ⟨block, hblock, _⟩ := List.mem_map.1 hcontents
        obtain ⟨hmem, hlabel⟩ := List.mem_filter.1 hblock
        exact .armoured harmoured hblocks ⟨block, hmem, eq_of_beq hlabel⟩
  · rename_i hbinary
    obtain rfl := Except.ok.inj h
    exact .binary (Bool.eq_false_iff.2 hbinary)

/-- A file that is read as a whole: it holds some encodings, and each of them is read. -/
def Reads (fs : FileSystem) (label : String) (read : Bytes → Except Error α) (file : String)
    (found : List α) : Prop :=
  ∃ data ders, fs.fileContents? file = some data ∧ Holds label data ders ∧
    List.Forall₂ (fun der a => read der = .ok a) ders found

theorem readValues_eq_ok_iff :
    readValues fs file label empty read = .ok found ↔ Reads fs label read file found := by
  have hvalues : ∀ ders, ders.mapM (fun der => (read der).mapError (LoadFailure.parse file)) =
      .ok found ↔ List.Forall₂ (fun der a => read der = .ok a) ders found := by
    intro ders
    simp only [mapM_eq_ok_iff, mapError_eq_ok_iff]
  rw [readValues, bind_eq_ok_iff]
  simp only [hvalues]
  constructor
  · rintro ⟨ders, hders, hread⟩
    unfold readEncodings at hders
    split at hders
    · cases hders
    · rename_i data hdata
      exact ⟨data, ders, hdata, holds_of_encodings hders, hread⟩
  · rintro ⟨data, ders, hdata, hholds, hread⟩
    refine ⟨ders, ?_, hread⟩
    rw [readEncodings, hdata]
    exact hholds.encodings_eq

/-- What comes of a file: it is accepted, and then with all that it holds, which is something, or
rejected because it cannot be read as a whole. -/
inductive Outcome (fs : FileSystem) (label : String) (read : Bytes → Except Error α)
    (file : String) : Except LoadFailure (List α) → Prop
  | accepted {found : List α} :
      Reads fs label read file found → found ≠ [] → Outcome fs label read file (.ok found)
  | rejected {failure : LoadFailure} :
      (∀ found, ¬Reads fs label read file found) → Outcome fs label read file (.error failure)

theorem outcome_readValues :
    Outcome fs label read file (readValues fs file label empty read) := by
  cases hvalues : readValues fs file label empty read with
  | ok found =>
      have hreads : Reads fs label read file found := readValues_eq_ok_iff.1 hvalues
      obtain ⟨_, _, _, hholds, hread⟩ := id hreads
      refine .accepted hreads ?_
      rintro rfl
      exact hholds.ne_nil (List.forall₂_nil_right_iff.1 hread)
  | error failure =>
      refine .rejected fun found hreads => ?_
      rw [readValues_eq_ok_iff.2 hreads] at hvalues
      cases hvalues

/-- What a file contributes was read from an encoding. -/
theorem exists_of_mem_contribution {a : α}
    (h : a ∈ contribution (readValues fs file label empty read)) : ∃ der, read der = .ok a := by
  cases hvalues : readValues fs file label empty read with
  | error failure =>
      rw [hvalues] at h
      cases h
  | ok found =>
      rw [hvalues] at h
      obtain ⟨_, _, _, _, hread⟩ := readValues_eq_ok_iff.1 hvalues
      obtain ⟨der, _, hder⟩ := exists_of_mem_mapM (mapM_eq_ok_iff.2 hread) h
      exact ⟨der, hder⟩

/-- What a file contributes depends on its contents alone. -/
theorem contribution_readValues_congr {fs' : FileSystem} {file' : String} {empty' : LoadFailure}
    (h : fs'.fileContents? file' = fs.fileContents? file) :
    contribution (readValues fs' file' label empty' read) =
      contribution (readValues fs file label empty read) := by
  have hok : ∀ found, readValues fs' file' label empty' read = .ok found ↔
      readValues fs file label empty read = .ok found := by
    intro found
    rw [readValues_eq_ok_iff, readValues_eq_ok_iff, Reads, Reads, h]
  cases hvalues : readValues fs file label empty read with
  | ok found => rw [(hok found).2 hvalues]
  | error failure =>
      cases hvalues' : readValues fs' file' label empty' read with
      | error _ => rfl
      | ok found =>
          rw [(hok found).1 hvalues'] at hvalues
          cases hvalues

/-- One encoding that cannot be read spoils the file. -/
theorem not_reads_of_error {der : Bytes} {e : Error} (hdata : fs.fileContents? file = some data)
    (hholds : Holds label data ders) (hder : der ∈ ders) (hfail : read der = .error e) :
    ¬Reads fs label read file found := by
  rintro ⟨_, ders', hdata', hholds', hread⟩
  obtain rfl := Option.some.inj (hdata.symm.trans hdata')
  obtain rfl : ders = ders' := hholds.eq hholds'
  obtain ⟨a, _, hok⟩ := exists_ok_of_mapM (mapM_eq_ok_iff.2 hread) hder
  rw [hfail] at hok
  cases hok

theorem contribution_eq_nil {der : Bytes} {e : Error} (hdata : fs.fileContents? file = some data)
    (hholds : Holds label data ders) (hder : der ∈ ders) (hfail : read der = .error e) :
    contribution (readValues fs file label empty read) = [] := by
  cases hvalues : readValues fs file label empty read with
  | error _ => rfl
  | ok found =>
      exact absurd (readValues_eq_ok_iff.1 hvalues) (not_reads_of_error hdata hholds hder hfail)

/-- The files of a directory that have one of some suffixes, in the order of their names. -/
def IsByName (fs : FileSystem) (directory : String) (suffixes files : List String) : Prop :=
  ∃ names : List String, files = names.map (Path.entry directory) ∧
    names.Perm ((fs.fileNames directory).filter (hasSuffix suffixes)) ∧ names.Pairwise (· ≤ ·)

theorem isByName_filesOf (fs : FileSystem) (directory : String) (suffixes : List String) :
    IsByName fs directory suffixes (filesOf fs directory suffixes) := by
  refine ⟨_, rfl, Sorting.sortBy_perm _ _, ?_⟩
  refine (Sorting.ascends_sortBy (Sorting.isRanking_key id) _).imp fun h => ?_
  rwa [decide_eq_false_iff_not, id, id, not_lt] at h

end StoreDirectory

end Mrtd
