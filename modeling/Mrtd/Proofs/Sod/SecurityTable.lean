import Mrtd.Proofs.Der.Oid
import Mrtd.Proofs.Der.Written
import Mrtd.Proofs.Sod.Signers

/-!
Which tables of data group digests are accepted. A table is written down and read again unchanged,
unless the identifier of its digest is none that can be read; then the profile decides. Digests are
entered one after the other, and a run of entries goes through exactly if every number is that of a
data group and none is repeated, in the list or in what was entered before.
-/

namespace Mrtd

open Der

namespace DigestAlgorithm

variable {algorithm : DigestAlgorithm} {text : String} {e : Error}

/-- The registered object identifier by its numbers. -/
def arcs : DigestAlgorithm → Oid.Arcs
  | sha1 => .ofNumbers 1 3 [14, 3, 2, 26] (by decide)
  | sha224 => .ofNumbers 2 16 [840, 1, 101, 3, 4, 2, 4] (by decide)
  | sha256 => .ofNumbers 2 16 [840, 1, 101, 3, 4, 2, 1] (by decide)
  | sha384 => .ofNumbers 2 16 [840, 1, 101, 3, 4, 2, 2] (by decide)
  | sha512 => .ofNumbers 2 16 [840, 1, 101, 3, 4, 2, 3] (by decide)

theorem joinDots_arcs (algorithm : DigestAlgorithm) :
    Asn1.ObjectIdentifier.joinDots algorithm.arcs.all = algorithm.oid := by
  cases algorithm <;> rfl

theorem ofOid_eq_ok_iff : ofOid text = .ok algorithm ↔ text = algorithm.oid := by
  constructor
  · intro h
    unfold ofOid at h
    split at h
    · rename_i found hfound
      obtain rfl := Except.ok.inj h
      have hoid : (found.oid == text) = true := by
        simpa using List.find?_some hfound
      exact (eq_of_beq hoid).symm
    · cases h
  · rintro rfl
    cases algorithm <;> rfl

theorem ofOid_eq_error_iff :
    ofOid text = .error e ↔
      (∀ algorithm : DigestAlgorithm, text ≠ algorithm.oid) ∧
        e = .unsupportedAlgorithm ("digest algorithm " ++ text) := by
  by_cases h : ∃ algorithm : DigestAlgorithm, text = algorithm.oid
  · obtain ⟨algorithm, halgorithm⟩ := h
    rw [ofOid_eq_ok_iff.2 halgorithm]
    constructor
    · intro hok
      cases hok
    · rintro ⟨hnone, _⟩
      exact absurd halgorithm (hnone algorithm)
  · have hnone : ∀ algorithm : DigestAlgorithm, text ≠ algorithm.oid := not_exists.1 h
    have hfind : all.find? (·.oid == text) = none := by
      rw [List.find?_eq_none]
      intro algorithm _
      simpa using (hnone algorithm).symm
    simp [ofOid, hfind, hnone, eq_comm]

/-- An identifier that names a digest can be read. -/
theorem isPermitted_of_text {o : Asn1.ObjectIdentifier} (h : Oid.text o = algorithm.oid) :
    Oid.isPermitted o = true := by
  have hfew : 4 ≤ algorithm.arcs.all.length ∧ algorithm.arcs.all.length ≤ 9 := by
    cases algorithm <;> decide
  exact Oid.isPermitted_of_text_eq hfew (h.trans (joinDots_arcs algorithm).symm)

end DigestAlgorithm

namespace Sod

namespace EncodedTable

variable {t : EncodedTable} {digests table result : List (Nat × Bytes)} {fault : Fault}

/-- The value has an encoding: its numbers are octets, the elements that it holds have known tags,
and the whole is short enough. -/
structure IsEncodable (t : EncodedTable) : Prop where
  version : t.version < 256
  numbers : ∀ entry ∈ t.digests, entry.1 < 256
  parameters : ∀ e ∈ t.algorithm.parameters, isTag e.tag = true
  versionInfo : ∀ info ∈ t.versionInfo, isTag info.1.tag = true ∧ isTag info.2.tag = true
  length : t.element.content.length ≤ maxLength

/-- The number is one of the data groups. -/
def IsGroup (number : Nat) : Prop :=
  1 ≤ number ∧ number ≤ maxDataGroup

/-- What documents of the profile hold. -/
structure InProfile (t : EncodedTable) : Prop where
  algorithm : ∃ algorithm : DigestAlgorithm, Oid.text t.algorithm.oid = algorithm.oid
  groups : ∀ entry ∈ t.digests, IsGroup entry.1
  distinct : (t.digests.map Prod.fst).Nodup
  version : t.version = 0 ∧ t.versionInfo = none ∨ t.version = 1 ∧ t.versionInfo.isSome = true

theorem digestOfElement?_digestElement {entry : Nat × Bytes} (hnumber : entry.1 < 256)
    (h : (digestElement entry).IsReadable) : digestOfElement? (digestElement entry) = some entry := by
  refine fieldsOf?_construct (h.forall_mem (by simp [octetElement]; decide)) ?_
  rw [Fields.read_bind_cons, octetOfElement?_octetElement hnumber, Option.bind_some,
    Fields.read_bind_cons]
  rfl

theorem IsEncodable.isReadable (h : t.IsEncodable) : t.element.IsReadable :=
  ⟨rfl, h.length⟩

/-- A table is read back if the identifier of its digest can be read, and is not read otherwise. -/
theorem ofElement?_element (h : t.IsEncodable) :
    ofElement? t.element = if Oid.isPermitted t.algorithm.oid then some t else none := by
  have hfields : ∀ e ∈ [octetElement t.version, t.algorithm.element,
      construct Tag.sequence (t.digests.map digestElement)] ++
      (t.versionInfo.map fun info => construct Tag.sequence [info.1, info.2]).toList,
      e.IsReadable := by
    refine h.isReadable.forall_mem fun e he => ?_
    rcases List.mem_append.1 he with hfixed | hoptional
    · simp only [List.mem_cons, List.not_mem_nil, or_false] at hfixed
      rcases hfixed with rfl | rfl | rfl <;> rfl
    · cases hinfo : t.versionInfo with
      | none => simp [hinfo] at hoptional
      | some info =>
          obtain rfl : e = construct Tag.sequence [info.1, info.2] := by
            simpa [hinfo] using hoptional
          rfl
  have halgorithm : Algorithm.ofElement? t.algorithm.element =
      if Oid.isPermitted t.algorithm.oid then some t.algorithm else none :=
    Algorithm.ofElement?_element (hfields _ (by simp)) h.parameters
  have hdigests : membersOf? Tag.sequence digestOfElement?
      (construct Tag.sequence (t.digests.map digestElement)) = some t.digests := by
    refine membersOf?_construct_map (hfields _ (by simp)) (fun _ => rfl) ?_
    exact fun entry hentry => digestOfElement?_digestElement (h.numbers entry hentry)
  refine fieldsOf?_construct hfields ?_
  rw [List.cons_append, List.cons_append, List.cons_append, List.nil_append, Fields.read_bind_cons,
    octetOfElement?_octetElement h.version, Option.bind_some, Fields.read_bind_cons, halgorithm]
  split
  · rw [Option.bind_some, Fields.read_bind_cons, hdigests, Option.bind_some]
    cases hinfo : t.versionInfo with
    | none =>
        rw [Option.map_none, Option.toList_none, Fields.readIf_bind_nil, ← hinfo]
        rfl
    | some info =>
        have hread : versionInfoOfElement? (construct Tag.sequence [info.1, info.2]) =
            some info := by
          have htags := h.versionInfo info hinfo
          have htexts : (construct Tag.sequence [info.1, info.2]).IsReadable :=
            hfields _ (by simp [hinfo])
          exact fieldsOf?_construct (htexts.forall_mem (by simp [htags])) rfl
        rw [Option.map_some, Option.toList_some, Fields.readIf_bind_cons rfl, hread,
          Option.bind_some, ← hinfo]
        rfl
  · rfl

/-- A run of entries goes through exactly if each is that of a data group and none is repeated. -/
theorem enter_eq_ok_iff :
    enter table digests = .ok result ↔
      (∀ entry ∈ digests, IsGroup entry.1) ∧ (digests.map Prod.fst).Nodup ∧
        (∀ entry ∈ digests, entry.1 ∉ table.map Prod.fst) ∧
          result = digests.foldl (fun table entry =>
            OrderedTable.insert compare entry.1 entry.2 table) table := by
  induction digests generalizing table with
  | nil => simp [enter, eq_comm]
  | cons entry rest ih =>
      obtain ⟨number, digest⟩ := entry
      rw [enter]
      by_cases hrange : number < 1 ∨ maxDataGroup < number
      · rw [if_pos hrange]
        constructor
        · intro h
          cases h
        · rintro ⟨hgroups, _⟩
          have hgroup : IsGroup number := hgroups (number, digest) List.mem_cons_self
          unfold IsGroup at hgroup
          omega
      have hgroup : IsGroup number := by
        unfold IsGroup
        omega
      rw [if_neg hrange]
      by_cases hfound : number ∈ table.map Prod.fst
      · have hsome : (OrderedTable.find? number table).isSome = true := by
          rw [Option.isSome_iff_ne_none]
          intro hnone
          exact OrderedTable.find?_eq_none_iff.1 hnone hfound
        rw [if_pos hsome]
        constructor
        · intro h
          cases h
        · rintro ⟨_, _, hnew, _⟩
          exact absurd hfound (hnew (number, digest) List.mem_cons_self)
      · have hnone : ¬ (OrderedTable.find? number table).isSome = true := by
          rw [OrderedTable.find?_eq_none_iff.2 hfound]
          decide
        rw [if_neg hnone, ih, List.foldl_cons]
        simp only [List.forall_mem_cons, List.map_cons, List.nodup_cons,
          OrderedTable.not_mem_keys_insert]
        constructor
        · rintro ⟨hgroups, hnodup, hnew, hresult⟩
          refine ⟨⟨hgroup, hgroups⟩, ⟨?_, hnodup⟩, ⟨hfound, fun e he => (hnew e he).2⟩, hresult⟩
          intro hagain
          obtain ⟨e, he, hkey⟩ := List.mem_map.1 hagain
          exact (hnew e he).1 hkey
        · rintro ⟨⟨_, hgroups⟩, ⟨hagain, hnodup⟩, ⟨_, hnew⟩, hresult⟩
          refine ⟨hgroups, hnodup, fun e he => ⟨?_, hnew e he⟩, hresult⟩
          rintro rfl
          exact hagain (List.mem_map_of_mem he)

/-- From the beginning, the table of all entries comes out. -/
theorem enter_nil_eq_ok_iff :
    enter [] digests = .ok result ↔
      (∀ entry ∈ digests, IsGroup entry.1) ∧ (digests.map Prod.fst).Nodup ∧
        result = OrderedTable.ofList compare digests := by
  rw [enter_eq_ok_iff, OrderedTable.ofList]
  simp

/-- The texts are there exactly if the version is the second one. -/
theorem ldsVersion_eq_ok_iff {version : LdsVersion} :
    t.ldsVersion = .ok version ↔
      t.version = 0 ∧ t.versionInfo = none ∧ version = .v0 ∨
      ∃ lds unicode, t.version = 1 ∧ t.versionInfo = some (lds, unicode) ∧
        version = .v1 (Text.ofUtf8Lossy lds.content) (Text.ofUtf8Lossy unicode.content) := by
  unfold ldsVersion
  split <;> simp_all [eq_comm]

/-- A table of the profile is what a value lists: its digest and version, and under each number the
digest that is listed with it. -/
structure Lists (t : EncodedTable) (table : SecurityTable) : Prop where
  algorithm : Oid.text t.algorithm.oid = table.algorithm.oid
  digests : ∀ number digest,
    OrderedTable.find? number table.digests = some digest ↔ (number, digest) ∈ t.digests
  ascending : OrderedTable.Ascending compare table.digests
  version : t.version = 0 ∧ t.versionInfo = none ∧ table.version = .v0 ∨
    ∃ lds unicode, t.version = 1 ∧ t.versionInfo = some (lds, unicode) ∧
      table.version = .v1 (Text.ofUtf8Lossy lds.content) (Text.ofUtf8Lossy unicode.content)

theorem check_eq_ok_iff {table : SecurityTable} :
    t.check = .ok table ↔
      Oid.text t.algorithm.oid = table.algorithm.oid ∧ enter [] t.digests = .ok table.digests ∧
        t.ldsVersion = .ok table.version := by
  constructor
  · intro h
    obtain ⟨algorithm, halgorithm, h⟩ := bind_eq_ok_iff.1 h
    obtain ⟨digests, hdigests, h⟩ := bind_eq_ok_iff.1 h
    obtain ⟨version, hversion, h⟩ := bind_eq_ok_iff.1 h
    obtain rfl := Except.ok.inj h
    exact ⟨DigestAlgorithm.ofOid_eq_ok_iff.1 halgorithm, mapError_eq_ok_iff.1 hdigests,
      mapError_eq_ok_iff.1 hversion⟩
  · rintro ⟨halgorithm, hdigests, hversion⟩
    refine bind_eq_ok_iff.2 ⟨_, DigestAlgorithm.ofOid_eq_ok_iff.2 halgorithm, ?_⟩
    refine bind_eq_ok_iff.2 ⟨_, mapError_eq_ok_iff.2 hdigests, ?_⟩
    exact bind_eq_ok_iff.2 ⟨_, mapError_eq_ok_iff.2 hversion, rfl⟩

theorem lists_of_check {table : SecurityTable} (h : t.check = .ok table) :
    t.InProfile ∧ t.Lists table := by
  obtain ⟨halgorithm, hdigests, hversion⟩ := check_eq_ok_iff.1 h
  obtain ⟨hgroups, hdistinct, htable⟩ := enter_nil_eq_ok_iff.1 hdigests
  have hcases := ldsVersion_eq_ok_iff.1 hversion
  refine ⟨⟨⟨_, halgorithm⟩, hgroups, hdistinct, ?_⟩, ⟨halgorithm, ?_, ?_, hcases⟩⟩
  · rcases hcases with ⟨hzero, hnone, _⟩ | ⟨lds, unicode, hone, hsome, _⟩
    · exact .inl ⟨hzero, hnone⟩
    · exact .inr ⟨hone, by rw [hsome, Option.isSome_some]⟩
  · intro number digest
    rw [htable]
    exact OrderedTable.find?_ofList_eq_some_iff compare hdistinct
  · rw [htable]
    exact OrderedTable.ascending_ofList compare t.digests

theorem exists_check_of_inProfile (h : t.InProfile) : ∃ table, t.check = .ok table := by
  obtain ⟨algorithm, halgorithm⟩ := h.algorithm
  have hdigests := enter_nil_eq_ok_iff.2 ⟨h.groups, h.distinct, rfl⟩
  have hversion : ∃ version, t.ldsVersion = .ok version := by
    rcases h.version with ⟨hzero, hnone⟩ | ⟨hone, hsome⟩
    · exact ⟨.v0, ldsVersion_eq_ok_iff.2 (.inl ⟨hzero, hnone, rfl⟩)⟩
    · obtain ⟨⟨lds, unicode⟩, hinfo⟩ := Option.isSome_iff_exists.1 hsome
      exact ⟨_, ldsVersion_eq_ok_iff.2 (.inr ⟨lds, unicode, hone, hinfo, rfl⟩)⟩
  obtain ⟨version, hversion⟩ := hversion
  exact ⟨⟨algorithm, _, version⟩, check_eq_ok_iff.2 ⟨halgorithm, hdigests, hversion⟩⟩

/-- The digest of the table is none that is supported, though its identifier can be read. -/
def HasUnknownDigest (t : EncodedTable) : Prop :=
  Oid.isPermitted t.algorithm.oid = true ∧
    ∀ algorithm : DigestAlgorithm, Oid.text t.algorithm.oid ≠ algorithm.oid

/-- Why a table is refused: its digest is unknown, or it is malformed in some way. -/
def RefusedWith (t : EncodedTable) (e : Error) : Prop :=
  t.HasUnknownDigest ∧
      e = .unsupportedAlgorithm ("digest algorithm " ++ Oid.text t.algorithm.oid) ∨
    ¬ t.HasUnknownDigest ∧ ∃ reason, e = .sodDecode reason

theorem refusedWith_of_check {e : Error} (hpermitted : Oid.isPermitted t.algorithm.oid = true)
    (h : t.check = .error e) : t.RefusedWith e := by
  rcases bind_eq_error_iff.1 h with halgorithm | ⟨algorithm, halgorithm, h⟩
  · obtain ⟨hunknown, rfl⟩ := DigestAlgorithm.ofOid_eq_error_iff.1 halgorithm
    exact .inl ⟨⟨hpermitted, hunknown⟩, rfl⟩
  have hknown : ¬ t.HasUnknownDigest := by
    rintro ⟨_, hunknown⟩
    exact hunknown algorithm (DigestAlgorithm.ofOid_eq_ok_iff.1 halgorithm)
  refine .inr ⟨hknown, ?_⟩
  rcases bind_eq_error_iff.1 h with hdigests | ⟨digests, _, h⟩
  · obtain ⟨fault, _, rfl⟩ := mapError_eq_error_iff.1 hdigests
    exact ⟨fault.message, rfl⟩
  rcases bind_eq_error_iff.1 h with hversion | ⟨version, _, h⟩
  · obtain ⟨fault, _, rfl⟩ := mapError_eq_error_iff.1 hversion
    exact ⟨fault.message, rfl⟩
  · cases h

/-- The encoding of a value is read as that value, and then checked against the profile. -/
theorem decode_encode (h : t.IsEncodable) :
    SecurityTable.decode t.element.encode =
      if Oid.isPermitted t.algorithm.oid then t.check else .error Fault.malformedTable.error := by
  rw [SecurityTable.decode, decode?_encode h.isReadable, Option.bind_some, ofElement?_element h]
  by_cases hpermitted : Oid.isPermitted t.algorithm.oid = true
  · rw [if_pos hpermitted, if_pos hpermitted]
  · rw [if_neg hpermitted, if_neg hpermitted]

end EncodedTable

namespace SecurityObject

open EncodedTable

variable {octets : Bytes} {element : Element} {d : Cms.SignedData} {t : EncodedTable}

/-- A security object around the encoding of a value is refused as the value is. -/
theorem decode_error_of_table {e : Error} {content : Bytes}
    (hdata : signedData octets = .ok (element, d)) (hcontent : contentOf d = .ok content)
    (htable : SecurityTable.decode content = .error e) : decode octets = .error e := by
  refine bind_eq_error_iff.2 (.inr ⟨_, mapError_eq_ok_iff.2 hdata, ?_⟩)
  refine bind_eq_error_iff.2 (.inr ⟨_, mapError_eq_ok_iff.2 hcontent, ?_⟩)
  exact bind_eq_error_iff.2 (.inl htable)

/-- The encoding of a value, as the content of signed data, is accepted as a table exactly if the
value is of the profile. The table then has the digests that are listed, each under its number. A
value that is not of the profile is refused, and the security object with it: for an unknown digest
if it has one, and as malformed otherwise. -/
theorem decode_encodedTable (h : t.IsEncodable) (hdata : signedData octets = .ok (element, d))
    (hcontent : contentOf d = .ok t.element.encode) :
    (t.InProfile ↔ ∃ table, SecurityTable.decode t.element.encode = .ok table) ∧
    (∀ table, SecurityTable.decode t.element.encode = .ok table → t.Lists table) ∧
    (∀ so, decode octets = .ok so → t.InProfile ∧ t.Lists so.table) ∧
    (¬ t.InProfile → ∃ e, decode octets = .error e ∧ t.RefusedWith e) := by
  have hlists : ∀ table, SecurityTable.decode t.element.encode = .ok table →
      t.InProfile ∧ t.Lists table := by
    intro table htable
    rw [decode_encode h] at htable
    split at htable
    · exact lists_of_check htable
    · cases htable
  refine ⟨⟨?_, ?_⟩, fun table htable => (hlists table htable).2, ?_, ?_⟩
  · intro hprofile
    obtain ⟨algorithm, halgorithm⟩ := hprofile.algorithm
    rw [decode_encode h, if_pos (DigestAlgorithm.isPermitted_of_text halgorithm)]
    exact exists_check_of_inProfile hprofile
  · rintro ⟨table, htable⟩
    exact (hlists table htable).1
  · intro so hso
    obtain ⟨_, _, _, hdata', _, _, _, hcontent', htable, _⟩ := decode_cases hso
    obtain ⟨rfl, rfl⟩ := Prod.mk.inj (Except.ok.inj (hdata.symm.trans hdata'))
    rw [← Except.ok.inj (hcontent.symm.trans hcontent')] at htable
    exact hlists so.table htable
  · intro hprofile
    by_cases hpermitted : Oid.isPermitted t.algorithm.oid = true
    · have hstage : SecurityTable.decode t.element.encode = t.check := by
        rw [decode_encode h, if_pos hpermitted]
      cases hcheck : t.check with
      | ok table => exact absurd (lists_of_check hcheck).1 hprofile
      | error e =>
          exact ⟨e, decode_error_of_table hdata hcontent (hstage.trans hcheck),
            refusedWith_of_check hpermitted hcheck⟩
    · have hstage : SecurityTable.decode t.element.encode = .error Fault.malformedTable.error := by
        rw [decode_encode h, if_neg hpermitted]
      refine ⟨_, decode_error_of_table hdata hcontent hstage, .inr ⟨?_, _, rfl⟩⟩
      rintro ⟨hreadable, _⟩
      exact hpermitted hreadable

end SecurityObject

end Sod

namespace Specimen

open Cms Sod SecurityObject EncodedTable

/-- Signed data around a table, by the signer of something else. -/
def dataAround (t : EncodedTable) : SignedData :=
  ⟨1, [], ⟨securityTableOid, some ⟨Tag.octetString, t.element.encode⟩⟩, none, none, [genuine]⟩

def objectAround (t : EncodedTable) : Bytes :=
  (ContentInfo.element ⟨signedDataOid, (dataAround t).element⟩).encode

/-- Two groups, not in order. -/
def unordered : EncodedTable := ⟨0, sha1, [(2, [7]), (1, [5, 6])], none⟩

/-- The identifier 1.2.3 has two octets. -/
def shortDigest : EncodedTable := ⟨0, ⟨⟨[0x2A, 0x03]⟩, none⟩, [(1, [5])], none⟩

theorem isEncodable_unordered : unordered.IsEncodable :=
  ⟨by decide, by decide, by decide, by decide, by decide +kernel⟩

theorem decode_unordered :
    unordered.IsEncodable ∧
      signedData (objectAround unordered) = .ok ((dataAround unordered).element,
        dataAround unordered) ∧
      contentOf (dataAround unordered) = .ok unordered.element.encode ∧
      (unordered.InProfile ↔
        ∃ table, SecurityTable.decode unordered.element.encode = .ok table) ∧
      (∀ table, SecurityTable.decode unordered.element.encode = .ok table →
        unordered.Lists table) ∧
      (∀ so, decode (objectAround unordered) = .ok so →
        unordered.InProfile ∧ unordered.Lists so.table) ∧
      (¬ unordered.InProfile → ∃ e, decode (objectAround unordered) = .error e ∧
        unordered.RefusedWith e) := by
  have hdata : signedData (objectAround unordered) =
      .ok ((dataAround unordered).element, dataAround unordered) :=
    toOption_eq_some_iff.1 (by decide +kernel)
  have hcontent : contentOf (dataAround unordered) = .ok unordered.element.encode :=
    toOption_eq_some_iff.1 (by decide +kernel)
  exact ⟨isEncodable_unordered, hdata, hcontent,
    decode_encodedTable isEncodable_unordered hdata hcontent⟩

/-- An identifier that is too short is no supported digest, yet the error does not say so. -/
theorem decode_shortDigest :
    shortDigest.IsEncodable ∧ Oid.text shortDigest.algorithm.oid = "1.2.3" ∧
      (∀ algorithm : DigestAlgorithm, Oid.text shortDigest.algorithm.oid ≠ algorithm.oid) ∧
      decode (objectAround shortDigest) = .error Fault.malformedTable.error ∧
      decode (objectAround shortDigest) ≠
        .error (.unsupportedAlgorithm "digest algorithm 1.2.3") := by
  have hencodable : shortDigest.IsEncodable :=
    ⟨by decide, by decide, by decide, by decide, by decide +kernel⟩
  have htext : Oid.text shortDigest.algorithm.oid = "1.2.3" := by decide +kernel
  have hunknown : ∀ algorithm : DigestAlgorithm,
      Oid.text shortDigest.algorithm.oid ≠ algorithm.oid := by
    intro algorithm
    rw [htext]
    cases algorithm <;> decide
  have hdecode : decode (objectAround shortDigest) = .error Fault.malformedTable.error := by
    have hdata : signedData (objectAround shortDigest) =
        .ok ((dataAround shortDigest).element, dataAround shortDigest) :=
      toOption_eq_some_iff.1 (by decide +kernel)
    have hcontent : contentOf (dataAround shortDigest) = .ok shortDigest.element.encode :=
      toOption_eq_some_iff.1 (by decide +kernel)
    refine decode_error_of_table hdata hcontent ?_
    rw [EncodedTable.decode_encode hencodable]
    exact if_neg (by decide)
  refine ⟨hencodable, htext, hunknown, hdecode, ?_⟩
  rw [hdecode]
  decide

end Specimen

end Mrtd
