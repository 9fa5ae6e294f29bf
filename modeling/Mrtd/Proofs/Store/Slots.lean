import Mrtd.Proofs.DistinguishedName
import Mrtd.Proofs.Identity
import Mrtd.Proofs.Store.History

/-!
Issuers and their slots. The store keeps one valid list for each issuer and knows issuers by the text
of their names, up to format. Two issuers whose names are plain have slots of their own exactly if the
names differ in more than format. Where a value has a separator in it, two names can have one text,
and then a list of either issuer takes the place of the other's.
-/

namespace Mrtd

/-- The name of the issuer in an encoded list. -/
def EncodedRevocationList.issuer? (octets : Bytes) : Option Asn1.Name :=
  (reader.first? octets).map (·.issuer)

theorem RevocationList.exists_issuer_of_ofDer {octets : Bytes} {crl : RevocationList}
    (h : ofDer octets = .ok crl) :
    ∃ name, EncodedRevocationList.issuer? octets = some name ∧ crl.issuer = name.text := by
  unfold ofDer at h
  split at h
  · rename_i e hfirst
    obtain rfl := Except.ok.inj h
    exact ⟨e.issuer, by rw [EncodedRevocationList.issuer?, hfirst, Option.map_some], rfl⟩
  · cases h

namespace RevocationListStore

variable {a b : RevocationList}

/-- A list stays out of the slot of another's issuer. -/
structure StaysOut (b a : RevocationList) : Prop where
  /-- Ingesting it leaves the lists of that issuer alone, and their flags. -/
  kept : ∀ s : RevocationListStore,
    (s.ingest b).lists.filter (isOf a.issuer) = s.lists.filter (isOf a.issuer)
  not_found : ∀ s : RevocationListStore, s.findValidByIssuer? a.issuer ≠ some b

theorem staysOut_iff : StaysOut b a ↔ DistinguishedName.same b.issuer a.issuer = false := by
  constructor
  · intro h
    have hempty : [{ b with isValid := true }].filter (isOf a.issuer) = [] := h.kept empty
    have hnot := List.filter_eq_nil_iff.1 hempty _ List.mem_cons_self
    exact Bool.eq_false_iff.2 hnot
  · intro h
    have hother : (Write.ingest b).concerns a.issuer = false := h
    refine ⟨fun s => filter_isOf_apply hother, fun s hfound => ?_⟩
    have hvalid : isValidFor a.issuer b = true := List.find?_some hfound
    obtain ⟨_, hissuer⟩ := Bool.and_eq_true_iff.1 hvalid
    rw [h] at hissuer
    cases hissuer

/-- Lists of issuers with plain names stay out of each other's slots exactly if the names differ in
more than format. -/
theorem staysOut_of_ofDer {octets octets' : Bytes} (ha : RevocationList.ofDer octets = .ok a)
    (hb : RevocationList.ofDer octets' = .ok b) :
    ∃ name name', EncodedRevocationList.issuer? octets = some name ∧
      EncodedRevocationList.issuer? octets' = some name' ∧
      (name.IsPlain → name'.IsPlain →
        (StaysOut a b ∧ StaysOut b a ↔ name.upToFormat ≠ name'.upToFormat)) := by
  obtain ⟨name, hname, hissuer⟩ := RevocationList.exists_issuer_of_ofDer ha
  obtain ⟨name', hname', hissuer'⟩ := RevocationList.exists_issuer_of_ofDer hb
  refine ⟨name, name', hname, hname', fun hplain hplain' => ?_⟩
  have hsymm : DistinguishedName.same b.issuer a.issuer = DistinguishedName.same a.issuer b.issuer :=
    DistinguishedName.same_comm ..
  rw [staysOut_iff, staysOut_iff, hsymm, and_self, hissuer, hissuer', ← Bool.not_eq_true, ne_eq,
    hplain.same_text_iff hplain']

end RevocationListStore

namespace Specimen

open Der RevocationListStore

/-- A name of one attribute for each relative name. -/
def attributeNames (attributes : List (UInt8 × String)) : Der.Name :=
  ⟨attributes.map fun (arc, value) =>
    [⟨⟨[0x55, 0x04, arc]⟩, ⟨Tag.printableString, Bytes.ofString value⟩⟩]⟩

/-- An organization whose name looks like two attributes, and those two attributes. -/
def commaIssuer : Bytes := (encodedList (attributeNames [(0x0A, "Gov, CN=CSCA")])).encode
def splitIssuer : Bytes := (encodedList (attributeNames [(0x0A, "Gov"), (0x03, "CSCA")])).encode

/-- The list without entries in a file. -/
def listIn (octets : Bytes) (issuer : String) : RevocationList :=
  .ofEntries (fingerprintOf octets) issuer none 0 none []

def commaList : RevocationList := listIn commaIssuer "O=Gov, CN=CSCA"
def splitList : RevocationList := listIn splitIssuer "O=Gov, CN=CSCA"
def rootList : RevocationList := listIn listOctets "CN=Root"

theorem ofDer_commaIssuer : RevocationList.ofDer commaIssuer = .ok commaList :=
  toOption_eq_some_iff.1 (by decide +kernel)

theorem ofDer_splitIssuer : RevocationList.ofDer splitIssuer = .ok splitList :=
  toOption_eq_some_iff.1 (by decide +kernel)

theorem ofDer_listOctets : RevocationList.ofDer listOctets = .ok rootList :=
  toOption_eq_some_iff.1 (by decide +kernel)

/-- Names without separators in their values keep two issuers apart. -/
theorem staysOut_splitList :
    RevocationList.ofDer splitIssuer = .ok splitList ∧
      RevocationList.ofDer listOctets = .ok rootList ∧
      StaysOut splitList rootList ∧ StaysOut rootList splitList := by
  obtain ⟨name, name', hname, hname', hiff⟩ :=
    staysOut_of_ofDer ofDer_splitIssuer ofDer_listOctets
  have hplain : ∀ name ∈ EncodedRevocationList.issuer? splitIssuer, name.IsPlain := by
    decide +kernel
  have hplain' : ∀ name ∈ EncodedRevocationList.issuer? listOctets, name.IsPlain := by
    decide +kernel
  have hdiffer : (EncodedRevocationList.issuer? splitIssuer).map (·.upToFormat) ≠
      (EncodedRevocationList.issuer? listOctets).map (·.upToFormat) := by decide +kernel
  have hapart := (hiff (hplain name hname) (hplain' name' hname')).2 fun heq => by
    rw [hname, hname'] at hdiffer
    exact hdiffer (congrArg some heq)
  exact ⟨ofDer_splitIssuer, ofDer_listOctets, hapart⟩

/-- Issuers of one and of two attributes share a slot: the later list clears the flag of the earlier
and is found in its place. -/
theorem commaIssuer_shares_slot :
    RevocationList.ofDer commaIssuer = .ok commaList ∧
      RevocationList.ofDer splitIssuer = .ok splitList ∧
      (EncodedRevocationList.issuer? commaIssuer).map (·.upToFormat.length) = some 1 ∧
      (EncodedRevocationList.issuer? splitIssuer).map (·.upToFormat.length) = some 2 ∧
      ((empty.ingest commaList).ingest splitList).lists =
        [{ commaList with isValid := false }, splitList] ∧
      ((empty.ingest commaList).ingest splitList).findValidByIssuer? commaList.issuer =
        some splitList :=
  ⟨ofDer_commaIssuer, ofDer_splitIssuer, by decide +kernel, by decide +kernel, by decide +kernel,
    by decide +kernel⟩

end Specimen

end Mrtd
