import Mrtd.Cms.SignedData
import Mrtd.Proofs.Der.Written

/-!
Signed data that was written, read again. Attributes may be written in any order, and so may the
values of each: reading sorts both, which works out as long as no two of them are the same. All else
comes back as it was.
-/

namespace Mrtd

open Der

namespace Der

namespace Algorithm

/-- The identifier can be read, and the parameters have a known tag. -/
structure IsEncodable (a : Algorithm) : Prop where
  oid : Oid.isPermitted a.oid = true
  parameters : ∀ e ∈ a.parameters, isTag e.tag = true

theorem IsEncodable.ofElement?_element {a : Algorithm} (h : a.IsEncodable)
    (hreadable : a.element.IsReadable) : ofElement? a.element = some a := by
  rw [Algorithm.ofElement?_element hreadable h.parameters, if_pos h.oid]

end Algorithm

namespace NameAttribute

/-- The type can be read, and the value has a known tag. -/
structure IsEncodable (a : NameAttribute) : Prop where
  type : Oid.isPermitted a.type = true
  value : isTag a.value.tag = true

theorem IsEncodable.ofElement?_element {a : NameAttribute} (h : a.IsEncodable)
    (hreadable : a.element.IsReadable) : ofElement? a.element = some a := by
  have htags : ∀ e ∈ [Oid.element a.type, a.value], isTag e.tag = true := by
    simp [Oid.element, h.value]
    decide
  refine fieldsOf?_construct (hreadable.forall_mem htags) ?_
  rw [Fields.read_bind_cons, Oid.ofElement?_element, if_pos h.type]
  rfl

end NameAttribute

namespace Name

/-- Relative names are sorted, and their attributes can be read. -/
def IsEncodable (n : Name) : Prop :=
  ∀ attributes ∈ n.relatives, Ascends NameAttribute.order attributes ∧
    ∀ a ∈ attributes, a.IsEncodable

theorem IsEncodable.ofElement?_element {n : Name} (h : n.IsEncodable)
    (hreadable : n.element.IsReadable) : ofElement? n.element = some n := by
  rw [ofElement?, element, Option.map_eq_some_iff]
  refine ⟨n.relatives, membersOf?_construct_map hreadable (fun _ => rfl) ?_, rfl⟩
  intro attributes hattributes hset
  obtain ⟨hascends, hencodable⟩ := h attributes hattributes
  exact setOf?_construct_map hset (fun _ => rfl)
    (fun a ha => (hencodable a ha).ofElement?_element) hascends

end Name

end Der

namespace Cms

namespace Attribute

/-- The type can be read, the values have known tags, and none is repeated. -/
structure IsEncodable (a : Attribute) : Prop where
  type : Oid.isPermitted a.type = true
  values : ∀ value ∈ a.values, isTag value.tag = true
  nodup : a.values.Nodup

/-- The same attribute with its values in some order. -/
structure Agrees (a b : Attribute) : Prop where
  type : a.type = b.type
  values : a.values.Perm b.values

variable {a b : Attribute}

namespace Agrees

theorem isReadable (h : b.Agrees a) (ha : a.element.IsReadable) : b.element.IsReadable := by
  have hvalues : Shrunk (construct Tag.set b.values) (construct Tag.set a.values) :=
    ⟨rfl, (Remain.of_perm h.values).length⟩
  have hremain : Remain [Oid.element b.type, construct Tag.set b.values]
      [Oid.element a.type, construct Tag.set a.values] := by
    rw [h.type]
    exact .cons (.refl _) (.cons hvalues .nil)
  exact ⟨rfl, Nat.le_trans hremain.length ha.2⟩

theorem isEncodable (h : b.Agrees a) (ha : a.IsEncodable) : b.IsEncodable :=
  ⟨h.type ▸ ha.type, fun value hvalue => ha.values value (h.values.subset hvalue),
    h.values.nodup_iff.2 ha.nodup⟩

theorem of_common {c d : Attribute} (hb : c.Agrees a) (hd : c.Agrees d) : a.Agrees d :=
  ⟨hb.type.symm.trans hd.type, hb.values.symm.trans hd.values⟩

end Agrees

theorem isReadable_fields (h : a.element.IsReadable) :
    ∀ e ∈ [Oid.element a.type, construct Tag.set a.values], e.IsReadable := by
  refine h.forall_mem fun e he => ?_
  simp only [List.mem_cons, List.not_mem_nil, or_false] at he
  rcases he with rfl | rfl <;> rfl

theorem IsEncodable.isReadable_values (h : a.IsEncodable) (hreadable : a.element.IsReadable) :
    ∀ value ∈ a.values, value.IsReadable :=
  (isReadable_fields hreadable (construct Tag.set a.values) (by simp)).forall_mem h.values

/-- The element of an attribute tells its type and its values. -/
theorem element_injective (ha : a.IsEncodable) (hb : b.IsEncodable)
    (hreada : a.element.IsReadable) (hreadb : b.element.IsReadable) (h : a.element = b.element) :
    a = b := by
  have hfields := construct_injective (isReadable_fields hreada) (isReadable_fields hreadb) h
  obtain ⟨htype, hvalues⟩ : Oid.element a.type = Oid.element b.type ∧
      construct Tag.set a.values = construct Tag.set b.values := by simpa using hfields
  have hsame := construct_injective (ha.isReadable_values hreada) (hb.isReadable_values hreadb)
    hvalues
  have hoctets : a.type.octets = b.type.octets := congrArg Element.content htype
  obtain ⟨⟨_⟩, _⟩ := a
  obtain ⟨⟨_⟩, _⟩ := b
  obtain rfl := hsame
  obtain rfl := hoctets
  rfl

/-- An attribute is read back with its values sorted. -/
theorem IsEncodable.exists_ofElement? (h : a.IsEncodable) (hreadable : a.element.IsReadable) :
    ∃ b, ofElement? a.element = some b ∧ b.Agrees a := by
  have hfields := isReadable_fields hreadable
  have hvalues := h.isReadable_values hreadable
  obtain ⟨sorted, hsorted⟩ := exists_sortMembers <|
    h.nodup.imp fun hne heq => hne (Element.eq_of_order heq)
  have hset : setOf? Tag.set some Element.order (construct Tag.set a.values) = some sorted := by
    exact setOf?_construct hvalues mapM_some hsorted
  refine ⟨⟨a.type, sorted⟩, ?_, ⟨rfl, sortMembers_perm hsorted⟩⟩
  refine fieldsOf?_construct hfields ?_
  rw [Fields.read_bind_cons, Oid.ofElement?_element, if_pos h.type, Option.bind_some,
    Fields.read_bind_cons, hset]
  rfl

/-- Attributes of which no two agree are read back, in another order perhaps. -/
theorem setOf?_construct {as : List Attribute} {tag : UInt8}
    (hencodable : ∀ a ∈ as, a.IsEncodable) (hdistinct : as.Pairwise fun a b => ¬ a.Agrees b)
    (hreadable : (construct tag (as.map element)).IsReadable) :
    ∃ sorted, setOf? tag ofElement? order (construct tag (as.map element)) = some sorted ∧
      (∀ b ∈ sorted, ∃ a ∈ as, b.Agrees a) ∧ ∀ a ∈ as, ∃ b ∈ sorted, b.Agrees a := by
  have helements : ∀ e ∈ as.map element, e.IsReadable := hreadable.forall_mem_map fun _ => rfl
  obtain ⟨members, hmembers, hall⟩ :
      ∃ members, (as.map element).mapM ofElement? = some members ∧
        List.Forall₂ (fun b a => b.Agrees a ∧ a.IsEncodable ∧ a.element.IsReadable) members as := by
    refine exists_mapM_map fun a ha => ?_
    have hwritten := helements _ (List.mem_map_of_mem ha)
    obtain ⟨b, hread, hagrees⟩ := (hencodable a ha).exists_ofElement? hwritten
    exact ⟨b, hread, hagrees, hencodable a ha, hwritten⟩
  have hunequal : members.Pairwise fun b d => order b d ≠ .eq := by
    refine pairwise_of_forall₂ hall hdistinct ?_
    rintro b a d c ⟨hba, ha, hwrittena⟩ ⟨hdc, hc, hwrittenc⟩ hdiffer heq
    have hsame : b = d := element_injective (hba.isEncodable ha) (hdc.isEncodable hc)
      (hba.isReadable hwrittena) (hdc.isReadable hwrittenc) (Element.eq_of_order heq)
    exact hdiffer (hba.of_common (hsame ▸ hdc))
  obtain ⟨sorted, hsorted⟩ := exists_sortMembers hunequal
  have hperm := sortMembers_perm hsorted
  refine ⟨sorted, Der.setOf?_construct helements hmembers hsorted, fun b hb => ?_, fun a ha => ?_⟩
  · obtain ⟨a, ha, hagrees, _⟩ := exists_of_mem_left hall (hperm.subset hb)
    exact ⟨a, ha, hagrees⟩
  · obtain ⟨b, hb, hagrees, _⟩ := exists_of_mem_left hall.flip ha
    exact ⟨b, hperm.symm.subset hb, hagrees⟩

end Attribute

namespace SignerIdentifier

theorem isTag_element (id : SignerIdentifier) : isTag id.element.tag = true := by
  cases id with
  | issuerAndSerial issuer serial => rfl
  | subjectKeyId id =>
      change isTag (Tag.context 0) = true
      decide

/-- The name can be read, and the serial number is one. -/
def IsEncodable : SignerIdentifier → Prop
  | issuerAndSerial issuer serial =>
      issuer.IsEncodable ∧ isSerial ⟨Tag.integer, serial⟩ = true
  | subjectKeyId _ => True

theorem IsEncodable.ofElement?_element {id : SignerIdentifier} (h : id.IsEncodable)
    (hreadable : id.element.IsReadable) : ofElement? id.element = some id := by
  cases id with
  | subjectKeyId id => rfl
  | issuerAndSerial issuer serial =>
      obtain ⟨hissuer, hserial⟩ := h
      have hfields : ∀ e ∈ [issuer.element, ⟨Tag.integer, serial⟩], e.IsReadable := by
        refine hreadable.forall_mem fun e he => ?_
        simp only [List.mem_cons, List.not_mem_nil, or_false] at he
        rcases he with rfl | rfl <;> rfl
      have htag : (element (issuerAndSerial issuer serial)).tag ≠ Tag.context 0 := by
        change Tag.sequence ≠ Tag.context 0
        decide
      rw [ofElement?, if_neg htag]
      refine fieldsOf?_construct hfields ?_
      rw [Fields.read_bind_cons, hissuer.ofElement?_element (hfields _ (by simp)),
        Option.bind_some, Fields.read_bind_cons, if_pos hserial]
      rfl

end SignerIdentifier

namespace SignerInfo

variable {s : SignerInfo} {signed : Option (List Attribute)}

/-- What signer information consists of can be read, its signed attributes apart. There are no
unsigned ones. -/
structure IsEncodable (s : SignerInfo) : Prop where
  version : s.version ≤ 5
  signer : s.signer.IsEncodable
  digestAlgorithm : s.digestAlgorithm.IsEncodable
  signatureAlgorithm : s.signatureAlgorithm.IsEncodable
  unsignedAttributes : s.unsignedAttributes = none

theorem version?_octetElement {version : Nat} (h : version ≤ 5) :
    version? (octetElement version) = some version := by
  rw [version?, octetOfElement?_octetElement (by omega), Option.filter_some]
  exact if_pos (decide_eq_true h)

theorem tag_of_mem_contextAttributes {number : Nat} {attributes : Option (List Attribute)}
    {e : Element} (h : e ∈ contextAttributes number attributes) :
    e.tag = Tag.constructedContext number := by
  cases attributes with
  | none => cases h
  | some as =>
      obtain rfl := List.mem_singleton.1 h
      rfl

/-- The fields of signer information without unsigned attributes. -/
def fields (s : SignerInfo) : List Element :=
  octetElement s.version :: s.signer.element :: s.digestAlgorithm.element ::
    (contextAttributes 0 s.signedAttributes ++
      [s.signatureAlgorithm.element, ⟨Tag.octetString, s.signature⟩])

theorem element_eq (h : s.unsignedAttributes = none) : s.element = construct Tag.sequence s.fields := by
  rw [element, h, fields, contextAttributes, contextAttributes, Option.map_none,
    Option.toList_none, List.append_nil]
  rfl

theorem isReadable_fields (h : (construct Tag.sequence s.fields).IsReadable) :
    ∀ e ∈ s.fields, e.IsReadable := by
  refine h.forall_mem fun e he => ?_
  simp only [fields, List.mem_append, List.mem_cons, List.not_mem_nil, or_false] at he
  rcases he with rfl | rfl | rfl | hsigned | rfl | rfl
  · rfl
  · exact s.signer.isTag_element
  · rfl
  · rw [tag_of_mem_contextAttributes hsigned]
    decide
  · rfl
  · rfl

/-- Signer information is read back, with its signed attributes as these are read. -/
theorem IsEncodable.ofElement?_element (h : s.IsEncodable) (hreadable : s.element.IsReadable)
    (hsigned : s.signedAttributes.map (fun as => Attribute.setOfContext? 0
      (construct (Tag.constructedContext 0) (as.map Attribute.element))) = signed.map some) :
    ofElement? s.element = some { s with signedAttributes := signed } := by
  rw [element_eq h.unsignedAttributes] at hreadable ⊢
  have hfields := isReadable_fields hreadable
  have hsigner := h.signer.ofElement?_element (hfields s.signer.element (by simp [fields]))
  have hdigest := h.digestAlgorithm.ofElement?_element
    (hfields s.digestAlgorithm.element (by simp [fields]))
  have hsignature := h.signatureAlgorithm.ofElement?_element
    (hfields s.signatureAlgorithm.element (by simp [fields]))
  refine fieldsOf?_construct hfields ?_
  rw [fields, Fields.read_bind_cons, version?_octetElement h.version, Option.bind_some,
    Fields.read_bind_cons, hsigner, Option.bind_some, Fields.read_bind_cons, hdigest,
    Option.bind_some, Option.map_some, h.unsignedAttributes]
  cases hattributes : s.signedAttributes with
  | none =>
      obtain rfl : signed = none := by simpa [hattributes] using hsigned.symm
      rw [contextAttributes, Option.map_none, Option.toList_none, List.nil_append,
        Fields.readContext_bind_absent, Fields.read_bind_cons, hsignature, Option.bind_some,
        Fields.read_bind_cons]
      · rfl
      · intro e he
        obtain rfl := Option.some.inj he
        change Tag.sequence.toNat < 0x80
        decide
  | some as =>
      obtain ⟨read, rfl, hread⟩ : ∃ read, signed = some read ∧ Attribute.setOfContext? 0
          (construct (Tag.constructedContext 0) (as.map Attribute.element)) = some read := by
        rw [hattributes] at hsigned
        cases signed with
        | none => cases hsigned
        | some read => exact ⟨read, rfl, Option.some.inj hsigned⟩
      rw [contextAttributes, Option.map_some, Option.toList_some, List.cons_append,
        List.nil_append, Fields.readContext_bind_cons (by decide) rfl, hread, Option.bind_some,
        Fields.read_bind_cons, hsignature, Option.bind_some, Fields.read_bind_cons]
      rfl

end SignerInfo

theorem inside?_construct {α : Type} {tag : UInt8} {f : Element → Option α} {e : Element}
    (h : e.IsReadable) : inside? tag f (construct tag [e]) = f e := by
  refine fieldsOf?_construct (by simpa using h) ?_
  rw [Fields.read_cons]

namespace ContentInfo

variable {c : ContentInfo}

theorem isReadable_fields (h : c.element.IsReadable) :
    ∀ e ∈ [Oid.element c.type, construct (Tag.constructedContext 0) [c.content]],
      e.IsReadable := by
  refine h.forall_mem fun e he => ?_
  simp only [List.mem_cons, List.not_mem_nil, or_false] at he
  rcases he with rfl | rfl
  · rfl
  · change isTag (Tag.constructedContext 0) = true
    decide

theorem isReadable_content (h : c.element.IsReadable) (htag : isTag c.content.tag = true) :
    c.content.IsReadable :=
  (isReadable_fields h (construct (Tag.constructedContext 0) [c.content]) (by simp)).of_mem
    (by simp) htag

/-- Content of a type is read back. -/
theorem ofElement?_element (htype : Oid.isPermitted c.type = true)
    (hcontent : isTag c.content.tag = true) (hreadable : c.element.IsReadable) :
    ofElement? c.element = some c := by
  have hfields := isReadable_fields hreadable
  have hinner : c.content.IsReadable := isReadable_content hreadable hcontent
  refine fieldsOf?_construct hfields ?_
  rw [Fields.read_bind_cons, Oid.ofElement?_element, if_pos htype, Option.bind_some,
    Fields.readContext_bind_cons (by decide) rfl, inside?_construct hinner]
  rfl

end ContentInfo

namespace EncapsulatedContent

variable {c : EncapsulatedContent} {e : Element}

theorem ofElement?_element (htype : Oid.isPermitted c.type = true) (hcontent : c.content = some e)
    (htag : isTag e.tag = true) (hreadable : c.element.IsReadable) :
    ofElement? c.element = some c := by
  obtain ⟨type, content⟩ := c
  obtain rfl : content = some e := hcontent
  have hfields := ContentInfo.isReadable_fields (c := ⟨type, e⟩) hreadable
  have hinner : e.IsReadable := ContentInfo.isReadable_content (c := ⟨type, e⟩) hreadable htag
  refine fieldsOf?_construct hfields ?_
  rw [Fields.read_bind_cons, Oid.ofElement?_element, if_pos htype, Option.bind_some]
  dsimp only
  rw [Option.map_some, Option.toList_some, Fields.readContext_bind_cons (by decide) rfl,
    inside?_construct hinner]
  rfl

end EncapsulatedContent

namespace SignedData

variable {d : SignedData} {e : Element} {signers : List SignerInfo}

/-- What signed data consists of can be read, its signers apart. Neither certificates nor revocation
lists come with it. -/
structure IsEncodable (d : SignedData) : Prop where
  version : d.version ≤ 5
  digestAlgorithms : ∀ a ∈ d.digestAlgorithms, a.IsEncodable
  ascends : Ascends Algorithm.order d.digestAlgorithms
  contentType : Oid.isPermitted d.content.type = true
  content : ∃ e, d.content.content = some e ∧ isTag e.tag = true
  certificates : d.certificates = none
  crls : d.crls = none

/-- The fields of signed data without certificates and revocation lists. -/
def fields (d : SignedData) : List Element :=
  [octetElement d.version, construct Tag.set (d.digestAlgorithms.map Algorithm.element),
    d.content.element, construct Tag.set (d.signers.map SignerInfo.element)]

theorem element_eq (hcertificates : d.certificates = none) (hcrls : d.crls = none) :
    d.element = construct Tag.sequence d.fields := by
  rw [element, hcertificates, hcrls, fields, contextSet, contextSet, Option.map_none,
    Option.map_none, Option.toList_none, List.append_nil, List.append_nil]
  rfl

theorem isReadable_fields (h : (construct Tag.sequence d.fields).IsReadable) :
    ∀ e ∈ d.fields, e.IsReadable := by
  refine h.forall_mem fun e he => ?_
  simp only [fields, List.mem_cons, List.not_mem_nil, or_false] at he
  rcases he with rfl | rfl | rfl | rfl <;> rfl

/-- Signed data is read back, with its signers as these are read. -/
theorem IsEncodable.ofElement?_element (h : d.IsEncodable) (hreadable : d.element.IsReadable)
    (hsigners : setOf? Tag.set SignerInfo.ofElement? SignerInfo.order
      (construct Tag.set (d.signers.map SignerInfo.element)) = some signers) :
    ofElement? d.element = some { d with signers := signers } := by
  rw [element_eq h.certificates h.crls] at hreadable ⊢
  have hfields := isReadable_fields hreadable
  have halgorithms : setOf? Tag.set Algorithm.ofElement? Algorithm.order
      (construct Tag.set (d.digestAlgorithms.map Algorithm.element)) = some d.digestAlgorithms := by
    refine setOf?_construct_map (hfields _ (by simp [fields])) (fun _ => rfl) ?_ h.ascends
    exact fun a ha => (h.digestAlgorithms a ha).ofElement?_element
  have hcontent : EncapsulatedContent.ofElement? d.content.element = some d.content := by
    obtain ⟨e, hcontent, htag⟩ := h.content
    exact EncapsulatedContent.ofElement?_element h.contentType hcontent htag
      (hfields d.content.element (by simp [fields]))
  have hset : ∀ e ∈ [construct Tag.set (d.signers.map SignerInfo.element)].head?,
      e.tag.toNat < 0x80 := by
    intro e he
    obtain rfl := Option.some.inj he
    change Tag.set.toNat < 0x80
    decide
  refine fieldsOf?_construct hfields ?_
  rw [fields, Fields.read_bind_cons, SignerInfo.version?_octetElement h.version, Option.bind_some,
    Fields.read_bind_cons, halgorithms, Option.bind_some, Fields.read_bind_cons, hcontent,
    Option.bind_some, h.certificates, h.crls, Fields.readContext_bind_absent hset,
    Fields.readContext_bind_absent hset, Fields.read_bind_cons, hsigners]
  rfl

end SignedData

end Cms

end Mrtd
