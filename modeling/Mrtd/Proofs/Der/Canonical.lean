import Mrtd.Der.Canonical
import Mrtd.Proofs.Der.SetOrder

/-!
What becomes of an element in its canonical form. To read the fields of an element and to write them
again changes it in three places only: the attributes of a name are sorted, a default that is stated
is left out, and so are fields that were passed over. So a certificate is its own form exactly if its
names are in order, it states no default and each of its optional fields is in its place; and the
form of any certificate is such a one.
-/

namespace Mrtd.Der

variable {e form : Element} {es forms : List Element} {tag : UInt8}

open Element

theorem Oid.element_of_ofElement? {oid : Asn1.ObjectIdentifier} (h : ofElement? e = some oid) :
    element oid = e := by
  unfold ofElement? at h
  split at h
  · rename_i hpermitted
    obtain rfl := Option.some.inj h
    rw [element, ← hpermitted.1]
  · cases h

theorem NameAttribute.element_of_ofElement? {a : NameAttribute} (h : ofElement? e = some a) :
    a.element = e := by
  obtain ⟨htag, es, helements, hfields⟩ := fieldsOf?_eq_some h
  obtain ⟨type, _, left, rfl, htype, hrest⟩ := Fields.read_bind_eq_some_iff.1 hfields
  obtain ⟨value, rest, hnext, hpure⟩ := Fields.bind_eq_some_iff.1 hrest
  obtain ⟨rfl, rfl⟩ := Fields.pure_eq_some_iff.1 hpure
  obtain rfl := Fields.next_eq_some_iff.1 hnext
  rw [element, Oid.element_of_ofElement? htype, construct_of_elements? htag helements]

theorem NameAttribute.map_element_of_mapM {attributes : List NameAttribute}
    (h : es.mapM ofElement? = some attributes) : attributes.map element = es := by
  have hread := forall₂_of_mapM h
  clear h
  induction hread with
  | nil => rfl
  | cons hfirst _ ih => rw [List.map_cons, element_of_ofElement? hfirst, ih]

namespace Canonical

variable {f member : Element → Option Element} {Has : Element → Prop}

/-- A way to bring elements into a form that has a property. It leaves those alone that have it. -/
structure Canonizes (f : Element → Option Element) (Has : Element → Prop) : Prop where
  shrunk : ∀ {e form}, f e = some form → Shrunk form e
  has : ∀ {e form}, f e = some form → Has form
  fixed : ∀ {e form}, f e = some form → Has e → form = e

/-- All that is accepted is its own form. -/
def Exact (f : Element → Option Element) : Prop :=
  ∀ ⦃e form⦄, f e = some form → form = e

theorem Exact.canonizes (hf : Exact f) : Canonizes f fun _ => True where
  shrunk h := by
    obtain rfl := hf h
    exact .refl _
  has _ := trivial
  fixed h _ := hf h

/-- It is enough to look at what elements of a tag consist of. -/
theorem canonizes_of_children (tag : UInt8) (Fit : List Element → Prop)
    (hcases : ∀ {e form}, f e = some form → ∃ es forms, e.tag = tag ∧
      elements? e.content = some es ∧ form = construct tag forms ∧
      Remain forms es ∧ Fit forms ∧ (Fit es → forms = es)) :
    Canonizes f fun e => Fit e.children := by
  constructor
  · intro e form h
    obtain ⟨es, forms, htag, helements, rfl, hremain, _, _⟩ := hcases h
    exact (shrunk_construct htag helements hremain).1
  · intro e form h
    obtain ⟨es, forms, htag, helements, rfl, hremain, hfit, _⟩ := hcases h
    rwa [(shrunk_construct htag helements hremain).2]
  · intro e form h hfit
    obtain ⟨es, forms, htag, helements, rfl, _, _, hsame⟩ := hcases h
    rw [children_of_elements? helements] at hfit
    rw [hsame hfit, construct_of_elements? htag helements]

theorem Exact.shrunk (hf : Exact f) (h : f e = some form) : Shrunk form e :=
  hf.canonizes.shrunk h

theorem keep_eq_some {accepts : Element → Bool} (h : keep accepts e = some form) :
    accepts e = true ∧ form = e := by
  unfold keep at h
  split at h
  · rename_i haccepts
    exact ⟨haccepts, (Option.some.inj h).symm⟩
  · cases h

theorem exact_keep {accepts : Element → Bool} : Exact (keep accepts) :=
  fun _ _ h => (keep_eq_some h).2

theorem exact_oid : Exact oid? := by
  intro e form h
  obtain ⟨oid, hoid, rfl⟩ := Option.map_eq_some_iff.1 h
  exact Oid.element_of_ofElement? hoid

theorem tag_of_oid? (h : oid? e = some form) : form.tag = Tag.objectIdentifier := by
  obtain ⟨oid, _, rfl⟩ := Option.map_eq_some_iff.1 h
  rfl

theorem tag_of_isSerial (h : isSerial e = true) : e.tag = Tag.integer := by
  simp only [isSerial, Bool.and_eq_true, beq_iff_eq] at h
  exact h.1.1

/-- Identifier and parameters are all that an algorithm identifier has. -/
theorem exact_algorithm : Exact algorithm? := by
  intro e form h
  obtain ⟨algorithm, halgorithm, rfl⟩ := Option.map_eq_some_iff.1 h
  obtain ⟨htag, es, helements, hfields⟩ := fieldsOf?_eq_some halgorithm
  obtain ⟨field, oid, left, rfl, hoid, hrest⟩ := Fields.read_bind_eq_some_iff.1 hfields
  obtain ⟨parameters, rest, hnext, hpure⟩ := Fields.bind_eq_some_iff.1 hrest
  obtain ⟨rfl, rfl⟩ := Fields.pure_eq_some_iff.1 hpure
  rw [Algorithm.element, Oid.element_of_ofElement? hoid, ← construct_of_elements? htag helements,
    Fields.next?_eq_some hnext, List.append_nil]

/-- The fields of a record and their forms. -/
inductive Forms : List (Element → Option Element) → List Element → List Element → Prop
  | nil : Forms [] [] []
  | cons {f : Element → Option Element} {fs : List (Element → Option Element)} {e form : Element}
      {es forms : List Element} : f e = some form → Forms fs es forms →
        Forms (f :: fs) (e :: es) (form :: forms)

theorem mapM_read_eq_some {fs : List (Element → Option Element)} {es rest forms : List Element}
    (h : fs.mapM Fields.read es = some (forms, rest)) :
    ∃ front, es = front ++ rest ∧ Forms fs front forms := by
  induction fs generalizing es forms with
  | nil =>
      obtain ⟨rfl, rfl⟩ := Fields.pure_eq_some_iff.1 h
      exact ⟨[], rfl, .nil⟩
  | cons f fs ih =>
      rw [List.mapM_cons] at h
      obtain ⟨e, form, left, rfl, hform, h⟩ := Fields.read_bind_eq_some_iff.1 h
      obtain ⟨others, _, hothers, hpure⟩ := Fields.bind_eq_some_iff.1 h
      obtain ⟨rfl, rfl⟩ := Fields.pure_eq_some_iff.1 hpure
      obtain ⟨front, rfl, hforms⟩ := ih hothers
      exact ⟨e :: front, rfl, .cons hform hforms⟩

theorem record?_eq_some {fs : List (Element → Option Element)} (h : record? fs e = some form) :
    e.tag = Tag.sequence ∧ ∃ es forms, elements? e.content = some es ∧ Forms fs es forms ∧
      form = construct Tag.sequence forms := by
  obtain ⟨htag, es, helements, hfields⟩ := fieldsOf?_eq_some h
  obtain ⟨forms, rest, hmap, hpure⟩ := Fields.bind_eq_some_iff.1 hfields
  obtain ⟨rfl, rfl⟩ := Fields.pure_eq_some_iff.1 hpure
  obtain ⟨front, rfl, hforms⟩ := mapM_read_eq_some hmap
  exact ⟨htag, front, forms, by simpa using helements, hforms, rfl⟩

theorem exact_record {fs : List (Element → Option Element)} (hfs : ∀ f ∈ fs, Exact f) :
    Exact (record? fs) := by
  intro e form h
  obtain ⟨htag, es, forms, helements, hforms, rfl⟩ := record?_eq_some h
  have hsame : forms = es := by
    clear helements h
    induction hforms with
    | nil => rfl
    | cons hform _ ih =>
        obtain ⟨hf, hrest⟩ := List.forall_mem_cons.1 hfs
        rw [hf hform, ih hrest]
  rw [hsame, construct_of_elements? htag helements]

theorem explicit?_eq_some {number : Nat} (h : explicit? number f e = some form) :
    e.tag = Tag.constructedContext number ∧ ∃ inner innerForm, elements? e.content = some [inner] ∧
      f inner = some innerForm ∧ form = construct (Tag.constructedContext number) [innerForm] := by
  obtain ⟨innerForm, hinside, rfl⟩ := Option.map_eq_some_iff.1 h
  obtain ⟨htag, es, helements, hread⟩ := fieldsOf?_eq_some hinside
  obtain ⟨inner, rfl, hinner⟩ := Fields.read_eq_some_iff.1 hread
  exact ⟨htag, inner, innerForm, helements, hinner, rfl⟩

theorem tag_of_explicit? {number : Nat} (h : explicit? number f e = some form) :
    form.tag = Tag.constructedContext number := by
  obtain ⟨_, _, _, _, _, rfl⟩ := explicit?_eq_some h
  rfl

theorem Canonizes.explicit {number : Nat} (hf : Canonizes f Has) :
    Canonizes (explicit? number f) fun e => ∀ inner ∈ e.children, Has inner := by
  refine canonizes_of_children (Tag.constructedContext number)
    (fun es => ∀ inner ∈ es, Has inner) fun h => ?_
  obtain ⟨htag, inner, innerForm, helements, hinner, rfl⟩ := explicit?_eq_some h
  refine ⟨_, _, htag, helements, rfl, .cons (hf.shrunk hinner) .nil, ?_, ?_⟩
  · simpa using hf.has hinner
  · intro hhas
    rw [hf.fixed hinner (hhas inner List.mem_cons_self)]

theorem exact_explicit {number : Nat} (hf : Exact f) : Exact (explicit? number f) := by
  intro e form h
  exact hf.canonizes.explicit.fixed h fun _ _ => trivial

theorem list?_eq_some (h : list? member e = some form) :
    e.tag = Tag.sequence ∧ ∃ es forms, elements? e.content = some es ∧
      List.Forall₂ (fun e form => member e = some form) es forms ∧
        form = construct Tag.sequence forms := by
  obtain ⟨forms, hmembers, rfl⟩ := Option.map_eq_some_iff.1 h
  obtain ⟨htag, es, helements, hmap⟩ := membersOf?_eq_some hmembers
  exact ⟨htag, es, forms, helements, forall₂_of_mapM hmap, rfl⟩

theorem Canonizes.forall₂ (hmember : Canonizes member Has)
    (h : List.Forall₂ (fun e form => member e = some form) es forms) :
    Remain forms es ∧ (∀ m ∈ forms, Has m) ∧ ((∀ m ∈ es, Has m) → forms = es) := by
  induction h with
  | nil => exact ⟨.nil, by simp, fun _ => rfl⟩
  | cons hform _ ih =>
      obtain ⟨hremain, hhas, hfixed⟩ := ih
      refine ⟨.cons (hmember.shrunk hform) hremain,
        List.forall_mem_cons.2 ⟨hmember.has hform, hhas⟩, ?_⟩
      intro hall
      obtain ⟨hfirst, hrest⟩ := List.forall_mem_cons.1 hall
      rw [hmember.fixed hform hfirst, hfixed hrest]

/-- Members are brought into their forms one by one. -/
theorem Canonizes.list (hmember : Canonizes member Has) :
    Canonizes (list? member) fun e => ∀ m ∈ e.children, Has m := by
  refine canonizes_of_children Tag.sequence (fun es => ∀ m ∈ es, Has m) fun h => ?_
  obtain ⟨htag, es, forms, helements, hforms, rfl⟩ := list?_eq_some h
  exact ⟨es, forms, htag, helements, rfl, hmember.forall₂ hforms⟩

/-- The attributes of a relative name, in order. -/
def relativeName? (e : Element) : Option Element :=
  (setOf? Tag.set NameAttribute.ofElement? NameAttribute.order e).map fun attributes =>
    construct Tag.set (attributes.map NameAttribute.element)

/-- The form of a name is that of a list of relative names. -/
theorem name?_eq_list : name? = list? relativeName? := by
  funext e
  unfold name? Name.ofElement? list? membersOf? relativeName?
  by_cases htag : e.tag = Tag.sequence
  · simp only [if_pos htag]
    cases elements? e.content with
    | none => rfl
    | some es =>
        simp only [Option.bind_eq_bind, Option.bind_some, mapM_map, Option.map_map]
        rfl
  · simp only [if_neg htag, Option.map_none]

/-- The attributes of a relative name are sorted. -/
theorem canonizes_relativeName :
    Canonizes relativeName? fun e => Ascends Element.order e.children := by
  refine canonizes_of_children Tag.set (Ascends Element.order) fun h => ?_
  obtain ⟨attributes, hset, rfl⟩ := Option.map_eq_some_iff.1 h
  obtain ⟨htag, es, members, helements, hmembers, hsort⟩ := setOf?_eq_some hset
  have hsame := NameAttribute.map_element_of_mapM hmembers
  have hascends : Ascends NameAttribute.order attributes := ascends_sortMembers hsort
  refine ⟨es, _, htag, helements, rfl, ?_, List.pairwise_map.2 hascends, ?_⟩
  · rw [← hsame]
    exact .of_perm ((sortMembers_perm hsort).map _)
  · intro hes
    rw [← hsame] at hes ⊢
    have hmembersAscend : Ascends NameAttribute.order members := List.pairwise_map.1 hes
    rw [sortMembers_of_ascends hmembersAscend] at hsort
    rw [Option.some.inj hsort]

/-- The attributes of each relative name ascend. -/
def SortedName (e : Element) : Prop :=
  ∀ relative ∈ e.children, Ascends Element.order relative.children

theorem canonizes_name : Canonizes name? SortedName := by
  rw [name?_eq_list]
  exact canonizes_relativeName.list

/-- The flag that says what is the default: that an extension is not critical. -/
def notCritical : Element := ⟨Tag.boolean, [0x00]⟩

theorem eq_notCritical (htag : e.tag = Tag.boolean) (h : boolean? e.content = some false) :
    e = notCritical := by
  obtain ⟨tag, content⟩ := e
  obtain rfl : tag = Tag.boolean := htag
  unfold boolean? at h
  split at h
  · rename_i hcontent
    obtain rfl : content = [0x00] := hcontent
    rfl
  · cases h
  · cases h

theorem canonizes_extension : Canonizes extension? fun e => notCritical ∉ e.children := by
  refine canonizes_of_children Tag.sequence (notCritical ∉ ·) fun h => ?_
  obtain ⟨htag, es, helements, hfields⟩ := fieldsOf?_eq_some h
  obtain ⟨_, oid, afterOid, rfl, hoid, hrest⟩ := Fields.read_bind_eq_some_iff.1 hfields
  obtain ⟨critical, _, hcritical, hrest⟩ := Fields.bind_eq_some_iff.1 hrest
  obtain ⟨_, value, _, rfl, hvalue, hpure⟩ := Fields.read_bind_eq_some_iff.1 hrest
  obtain ⟨rfl, rfl⟩ := Fields.pure_eq_some_iff.1 hpure
  have hoidTag : oid.tag = Tag.objectIdentifier := tag_of_oid? hoid
  obtain rfl := exact_oid hoid
  obtain ⟨hvalueTag, rfl⟩ := keep_eq_some hvalue
  have hfirst : notCritical ≠ oid := by
    rintro rfl
    cases hoidTag
  have hlast : notCritical ≠ value := by
    rintro rfl
    cases hvalueTag
  rcases Fields.readIf_cases hcritical with ⟨rfl, rfl⟩ | ⟨flag, _, rfl, rfl, hflagTag, hflag⟩
  · -- Nothing is said of being critical.
    exact ⟨_, _, htag, helements, rfl, .refl _, by simp [hfirst, hlast], fun _ => rfl⟩
  · obtain ⟨stated, hstated, rfl⟩ := Option.map_eq_some_iff.1 hflag
    cases stated with
    | true =>
        have hflag : notCritical ≠ flag := by
          rintro rfl
          cases hstated
        exact ⟨_, _, htag, helements, rfl, .refl _, by simp [hfirst, hflag, hlast],
          fun _ => rfl⟩
    | false =>
        have hflag : flag = notCritical :=
          eq_notCritical (eq_of_beq hflagTag) hstated
        refine ⟨_, _, htag, helements, rfl, ?_, by simp [hfirst, hlast], ?_⟩
        · exact .cons (.refl _) ((Remain.refl _).of_suffix (List.suffix_cons ..))
        · intro hnone
          simp [hflag] at hnone

/-- The elements in the body of a certificate, each in the place of its field. -/
@[ext] structure BodyFields where
  version : Option Element
  serial : Element
  signature : Element
  issuer : Element
  validity : Element
  subject : Element
  key : Element
  issuerId : Option Element
  subjectId : Option Element
  extensions : Option Element

def BodyFields.elements (b : BodyFields) : List Element :=
  b.version.toList ++ [b.serial, b.signature, b.issuer, b.validity, b.subject, b.key] ++
    b.issuerId.toList ++ b.subjectId.toList ++ b.extensions.toList

/-- The statement of the version that is the default. -/
def firstVersion : Element :=
  construct (Tag.constructedContext 0) [octetElement 0]

/-- The fields as the distinguished encoding has them: what is tagged has the tag of its field,
defaults are not stated and names are in order. -/
structure BodyFields.Distinguished (b : BodyFields) : Prop where
  version : ∀ e ∈ b.version, e.tag = Tag.constructedContext 0 ∧ e ≠ firstVersion
  serial : b.serial.tag = Tag.integer
  issuer : SortedName b.issuer
  subject : SortedName b.subject
  issuerId : ∀ e ∈ b.issuerId, e.tag = Tag.context 1
  subjectId : ∀ e ∈ b.subjectId, e.tag = Tag.context 2
  extensions : ∀ e ∈ b.extensions, e.tag = Tag.constructedContext 3 ∧
    ∀ list ∈ e.children, ∀ extension ∈ list.children, notCritical ∉ extension.children

/-- Elements that are the fields of a certificate's body, in the distinguished encoding, and no
others. -/
def DistinguishedBody (es : List Element) : Prop :=
  ∃ b : BodyFields, es = b.elements ∧ b.Distinguished

theorem remain_readContext {number : Nat} {rest : List Element} {value : Option Element}
    (hf : ∀ {e form}, f e = some form → Shrunk form e)
    (h : Fields.readContext number f es = some (value, rest)) (hrest : Remain forms rest) :
    Remain (value.toList ++ forms) es := by
  rcases Fields.readContext_cases h with ⟨rfl, hfound⟩ | ⟨e, form, rfl, hfound, hform⟩
  · exact hrest.of_suffix (Fields.contextField_suffix hfound).1
  · exact (Remain.cons (hf hform) hrest).of_suffix ((Fields.contextField_suffix hfound).2 e rfl)

theorem has_of_readContext {number : Nat} {rest : List Element} {value : Option Element}
    (hf : ∀ {e form}, f e = some form → Has form)
    (h : Fields.readContext number f es = some (value, rest)) : ∀ form ∈ value, Has form := by
  intro form hvalue
  rcases Fields.readContext_cases h with ⟨rfl, _⟩ | ⟨e, read, rfl, _, hform⟩
  · cases hvalue
  · obtain rfl := Option.some.inj hvalue
    exact hf hform

/-- An element is tagged with a context number. -/
def HasNumber (number : Nat) (e : Element) : Prop :=
  0x80 ≤ e.tag.toNat ∧ e.tag.toNat < 0xC0 ∧ e.tag.toNat % 32 = number

/-- A field that is in its place is found without passing over another. -/
theorem readContext_in_place {number : Nat} {found value : Option Element}
    {rest left : List Element} (hfound : ∀ e ∈ found, HasNumber number e)
    (hrest : ∀ e ∈ rest, number < e.tag.toNat % 32)
    (hfixed : ∀ e ∈ found, ∀ form, f e = some form → form = e)
    (h : Fields.readContext number f (found.toList ++ rest) = some (value, left)) :
    value = found ∧ left = rest := by
  have hplace : Fields.contextField number (found.toList ++ rest) = some (found, rest) := by
    cases found with
    | some e =>
        obtain ⟨hlow, hhigh, hnumber⟩ := hfound e rfl
        simp [Fields.contextField, hlow, hhigh, hnumber]
    | none =>
        cases rest with
        | nil => rfl
        | cons e others =>
            have hpast : ¬e.tag.toNat % 32 ≤ number :=
              Nat.not_le.2 (hrest e List.mem_cons_self)
            simp [Fields.contextField, hpast]
  rcases Fields.readContext_cases h with ⟨rfl, hnone⟩ | ⟨e, form, rfl, hsome, hform⟩
  · obtain ⟨rfl, rfl⟩ := Prod.mk.inj (Option.some.inj (hplace.symm.trans hnone))
    exact ⟨rfl, rfl⟩
  · obtain ⟨rfl, rfl⟩ := Prod.mk.inj (Option.some.inj (hplace.symm.trans hsome))
    rw [hfixed e rfl form hform]
    exact ⟨rfl, rfl⟩

/-- The form of the field with the extensions. -/
theorem canonizes_extensions : Canonizes (explicit? 3 extensions?) fun e =>
    ∀ list ∈ e.children, ∀ extension ∈ list.children, notCritical ∉ extension.children :=
  canonizes_extension.list.explicit

theorem exact_bits {tag : UInt8} : Exact (bits? tag) := exact_keep

theorem tag_of_bits? (h : bits? tag e = some form) : form.tag = tag := by
  obtain ⟨haccepts, rfl⟩ := keep_eq_some h
  rw [Bool.and_eq_true] at haccepts
  exact eq_of_beq haccepts.1

theorem exact_version : Exact (explicit? 0 version?) := exact_explicit exact_keep

theorem exact_time : Exact time? := exact_keep

theorem exact_validity : Exact (record? [time?, time?]) :=
  exact_record (by simpa using exact_time)

theorem exact_key : Exact (record? [algorithm?, bits? Tag.bitString]) :=
  exact_record (by simpa using ⟨exact_algorithm, exact_bits⟩)

namespace BodyFields

/-- The fields without a version that is the default. -/
def stated (b : BodyFields) : BodyFields :=
  { b with version := b.version.filter (· ≠ firstVersion) }

/-- The forms of the fields that the elements in a body are read as. All but the names and what may
be missing are the elements themselves. -/
structure ReadFrom (b : BodyFields) (issuer subject : Element)
    (optional afterIssuerId afterSubjectId es : List Element) : Prop where
  elements : es = b.version.toList ++
    b.serial :: b.signature :: issuer :: b.validity :: subject :: b.key :: optional
  version : ∀ e ∈ b.version, e.tag = Tag.constructedContext 0
  serial : b.serial.tag = Tag.integer
  issuer : name? issuer = some b.issuer
  subject : name? subject = some b.subject
  issuerId : Fields.readContext 1 (bits? (Tag.context 1)) optional = some (b.issuerId, afterIssuerId)
  subjectId : Fields.readContext 2 (bits? (Tag.context 2)) afterIssuerId =
    some (b.subjectId, afterSubjectId)
  extensions : Fields.readContext 3 (explicit? 3 extensions?) afterSubjectId = some (b.extensions, [])

variable {b : BodyFields} {issuer subject : Element}
  {optional afterIssuerId afterSubjectId : List Element}

theorem readFrom_of_certificateBody? (h : certificateBody? e = some form) :
    e.tag = Tag.sequence ∧ ∃ es, elements? e.content = some es ∧
      ∃ b issuer subject optional afterIssuerId afterSubjectId,
        ReadFrom b issuer subject optional afterIssuerId afterSubjectId es ∧
          form = construct Tag.sequence b.stated.elements := by
  obtain ⟨htag, es, helements, hfields⟩ := fieldsOf?_eq_some h
  obtain ⟨version, _, hversion, hrest⟩ := Fields.bind_eq_some_iff.1 hfields
  obtain ⟨_, serial, _, rfl, hserial, hrest⟩ := Fields.read_bind_eq_some_iff.1 hrest
  obtain ⟨_, signature, _, rfl, hsignature, hrest⟩ := Fields.read_bind_eq_some_iff.1 hrest
  obtain ⟨issuer, issuerForm, _, rfl, hissuer, hrest⟩ := Fields.read_bind_eq_some_iff.1 hrest
  obtain ⟨_, validity, _, rfl, hvalidity, hrest⟩ := Fields.read_bind_eq_some_iff.1 hrest
  obtain ⟨subject, subjectForm, _, rfl, hsubject, hrest⟩ := Fields.read_bind_eq_some_iff.1 hrest
  obtain ⟨_, key, optional, rfl, hkey, hrest⟩ := Fields.read_bind_eq_some_iff.1 hrest
  obtain ⟨issuerId, afterIssuerId, hissuerId, hrest⟩ := Fields.bind_eq_some_iff.1 hrest
  obtain ⟨subjectId, afterSubjectId, hsubjectId, hrest⟩ := Fields.bind_eq_some_iff.1 hrest
  obtain ⟨extensions, _, hextensions, hpure⟩ := Fields.bind_eq_some_iff.1 hrest
  obtain ⟨rfl, rfl⟩ := Fields.pure_eq_some_iff.1 hpure
  obtain ⟨hserialTag, rfl⟩ := keep_eq_some hserial
  obtain rfl := exact_algorithm hsignature
  obtain rfl := exact_validity hvalidity
  obtain rfl := exact_key hkey
  have hversionField : es = version.toList ++
        serial :: signature :: issuer :: validity :: subject :: key :: optional ∧
      ∀ e ∈ version, e.tag = Tag.constructedContext 0 := by
    rcases Fields.readContext_zero_cases hversion with ⟨rfl, rfl, _⟩ | ⟨_, stated, rfl, rfl, hstated⟩
    · exact ⟨rfl, by simp⟩
    · obtain rfl := exact_version hstated
      have hstatedTag := (explicit?_eq_some hstated).1
      exact ⟨rfl, by simpa using hstatedTag⟩
  refine ⟨htag, es, helements, ⟨version, serial, signature, issuerForm, validity, subjectForm, key,
    issuerId, subjectId, extensions⟩, issuer, subject, optional, afterIssuerId, afterSubjectId,
    ?_, rfl⟩
  exact {
    elements := hversionField.1
    version := hversionField.2
    serial := tag_of_isSerial hserialTag
    issuer := hissuer
    subject := hsubject
    issuerId := hissuerId
    subjectId := hsubjectId
    extensions := hextensions }

/-- What is left out is passed over or a default that is stated; the rest is brought into form. -/
theorem ReadFrom.remain (h : b.ReadFrom issuer subject optional afterIssuerId afterSubjectId es) :
    Remain b.stated.elements es := by
  have hoptional : Remain (b.issuerId.toList ++ (b.subjectId.toList ++ b.extensions.toList))
      optional := by
    have hextensions := remain_readContext canonizes_extensions.shrunk h.extensions .nil
    rw [List.append_nil] at hextensions
    exact remain_readContext exact_bits.shrunk h.issuerId
      (remain_readContext exact_bits.shrunk h.subjectId hextensions)
  have hfields : Remain ([b.serial, b.signature, b.issuer, b.validity, b.subject, b.key] ++
        (b.issuerId.toList ++ (b.subjectId.toList ++ b.extensions.toList)))
      (b.serial :: b.signature :: issuer :: b.validity :: subject :: b.key :: optional) :=
    .cons (.refl _) <| .cons (.refl _) <| .cons (canonizes_name.shrunk h.issuer) <|
      .cons (.refl _) <| .cons (canonizes_name.shrunk h.subject) <| .cons (.refl _) hoptional
  have helements : b.stated.elements = b.stated.version.toList ++
      ([b.serial, b.signature, b.issuer, b.validity, b.subject, b.key] ++
        (b.issuerId.toList ++ (b.subjectId.toList ++ b.extensions.toList))) := by
    simp [BodyFields.elements, stated]
  rw [helements, h.elements]
  cases hversion : b.version with
  | none => simpa [stated, hversion] using hfields
  | some version =>
      by_cases hfirst : version = firstVersion
      · simpa [stated, hversion, hfirst, Option.filter_some] using hfields.of_suffix (List.suffix_cons ..)
      · simpa [stated, hversion, hfirst, Option.filter_some] using Remain.cons (.refl version) hfields

theorem ReadFrom.distinguished
    (h : b.ReadFrom issuer subject optional afterIssuerId afterSubjectId es) :
    b.stated.Distinguished where
  version := by
    intro e he
    obtain ⟨hread, hfirst⟩ := Option.filter_eq_some_iff.1 he
    exact ⟨h.version e hread, of_decide_eq_true hfirst⟩
  serial := h.serial
  issuer := canonizes_name.has h.issuer
  subject := canonizes_name.has h.subject
  issuerId := has_of_readContext tag_of_bits? h.issuerId
  subjectId := has_of_readContext tag_of_bits? h.subjectId
  extensions := has_of_readContext
    (fun hform => ⟨tag_of_explicit? hform, canonizes_extensions.has hform⟩) h.extensions

/-- A version is told from the serial number by its tag. -/
theorem version_eq_of_append_eq {version version' : Option Element} {serial serial' : Element}
    {rest rest' : List Element} (hversion : ∀ e ∈ version, e.tag = Tag.constructedContext 0)
    (hversion' : ∀ e ∈ version', e.tag = Tag.constructedContext 0)
    (hserial : serial.tag = Tag.integer) (hserial' : serial'.tag = Tag.integer)
    (h : version.toList ++ serial :: rest = version'.toList ++ serial' :: rest') :
    version = version' ∧ serial = serial' ∧ rest = rest' := by
  have hother : Tag.constructedContext 0 ≠ Tag.integer := by decide
  cases version with
  | none =>
      cases version' with
      | none => exact ⟨rfl, List.cons.inj h⟩
      | some stated =>
          obtain ⟨rfl, _⟩ := List.cons.inj h
          exact absurd ((hversion' _ rfl).symm.trans hserial) hother
  | some stated =>
      cases version' with
      | none =>
          obtain ⟨rfl, _⟩ := List.cons.inj h
          exact absurd ((hversion _ rfl).symm.trans hserial') hother
      | some stated' =>
          obtain ⟨rfl, hserials⟩ := List.cons.inj h
          exact ⟨rfl, List.cons.inj hserials⟩

/-- Every optional field has a lower number than those behind it, so none is passed over. -/
theorem ReadFrom.optional_eq {read : BodyFields}
    (h : b.ReadFrom issuer subject optional afterIssuerId afterSubjectId es)
    (hread : read.Distinguished)
    (hoptional : optional =
      read.issuerId.toList ++ (read.subjectId.toList ++ read.extensions.toList)) :
    b.issuerId = read.issuerId ∧ b.subjectId = read.subjectId ∧ b.extensions = read.extensions := by
  subst hoptional
  have hone : ∀ e ∈ read.issuerId, HasNumber 1 e := by
    intro e he
    rw [HasNumber, hread.issuerId e he]
    decide
  have htwo : ∀ e ∈ read.subjectId, HasNumber 2 e := by
    intro e he
    rw [HasNumber, hread.subjectId e he]
    decide
  have hthree : ∀ e ∈ read.extensions, HasNumber 3 e := by
    intro e he
    rw [HasNumber, (hread.extensions e he).1]
    decide
  have hafterOne : ∀ e ∈ read.subjectId.toList ++ read.extensions.toList, 1 < e.tag.toNat % 32 := by
    intro e he
    rcases List.mem_append.1 he with hmem | hmem
    · rw [(htwo e (Option.mem_toList.1 hmem)).2.2]
      decide
    · rw [(hthree e (Option.mem_toList.1 hmem)).2.2]
      decide
  have hafterTwo : ∀ e ∈ read.extensions.toList, 2 < e.tag.toNat % 32 := by
    intro e he
    rw [(hthree e (Option.mem_toList.1 he)).2.2]
    decide
  obtain ⟨hissuerId, rfl⟩ := readContext_in_place hone hafterOne
    (fun _ _ _ hform => exact_bits hform) h.issuerId
  obtain ⟨hsubjectId, rfl⟩ := readContext_in_place htwo hafterTwo
    (fun _ _ _ hform => exact_bits hform) h.subjectId
  have hlast := h.extensions
  rw [← List.append_nil read.extensions.toList] at hlast
  obtain ⟨hextensions, _⟩ := readContext_in_place hthree (by simp)
    (fun e he _ hform => canonizes_extensions.fixed hform (hread.extensions e he).2) hlast
  exact ⟨hissuerId, hsubjectId, hextensions⟩

theorem stated_eq_self (h : ∀ e ∈ b.version, e ≠ firstVersion) : b.stated = b := by
  have hversion : b.version.filter (· ≠ firstVersion) = b.version := by
    cases hcases : b.version with
    | none => rfl
    | some version =>
        have hother : version ≠ firstVersion := h version hcases
        simp [Option.filter_some, hother]
  rw [stated, hversion]

/-- Fields that are in the distinguished encoding are read as themselves. -/
theorem ReadFrom.stated_eq {read : BodyFields}
    (h : b.ReadFrom issuer subject optional afterIssuerId afterSubjectId read.elements)
    (hread : read.Distinguished) : b.stated = read := by
  have helements := h.elements
  simp only [BodyFields.elements, List.append_assoc, List.cons_append, List.nil_append]
    at helements
  obtain ⟨hversion, hserial, hrest⟩ := version_eq_of_append_eq
    (fun e he => (hread.version e he).1) h.version hread.serial h.serial helements
  simp only [List.cons.injEq] at hrest
  obtain ⟨hsignature, rfl, hvalidity, rfl, hkey, hoptional⟩ := hrest
  obtain ⟨hissuerId, hsubjectId, hextensions⟩ := h.optional_eq hread hoptional.symm
  have hissuer := canonizes_name.fixed h.issuer hread.issuer
  have hsubject := canonizes_name.fixed h.subject hread.subject
  rw [stated_eq_self fun e he => (hread.version e (hversion ▸ he)).2]
  exact BodyFields.ext hversion.symm hserial.symm hsignature.symm hissuer hvalidity.symm hsubject
    hkey.symm hissuerId hsubjectId hextensions

end BodyFields

theorem canonizes_certificateBody :
    Canonizes certificateBody? fun e => DistinguishedBody e.children := by
  refine canonizes_of_children Tag.sequence DistinguishedBody fun h => ?_
  obtain ⟨htag, es, helements, b, issuer, subject, _, _, _, hread, rfl⟩ :=
    BodyFields.readFrom_of_certificateBody? h
  refine ⟨es, _, htag, helements, rfl, hread.remain, ⟨b.stated, rfl, hread.distinguished⟩, ?_⟩
  rintro ⟨fields, rfl, hfields⟩
  rw [hread.stated_eq hfields]

/-- A certificate of which the body is in the distinguished encoding. -/
def DistinguishedCertificate (e : Element) : Prop :=
  ∀ body ∈ e.children.head?, DistinguishedBody body.children

theorem canonizes_certificate : Canonizes certificate? DistinguishedCertificate := by
  refine canonizes_of_children Tag.sequence
    (fun es => ∀ body ∈ es.head?, DistinguishedBody body.children) fun h => ?_
  obtain ⟨htag, es, forms, helements, hforms, rfl⟩ := record?_eq_some h
  obtain _ | ⟨hbody, hforms⟩ := hforms
  obtain _ | ⟨halgorithm, hforms⟩ := hforms
  obtain _ | ⟨hsignature, hforms⟩ := hforms
  obtain _ | _ := hforms
  obtain rfl := exact_algorithm halgorithm
  obtain rfl := exact_bits hsignature
  refine ⟨_, _, htag, helements, rfl, ?_, ?_, ?_⟩
  · exact .cons (canonizes_certificateBody.shrunk hbody) (.refl _)
  · simpa using canonizes_certificateBody.has hbody
  · intro hdistinguished
    rw [canonizes_certificateBody.fixed hbody (hdistinguished _ rfl)]

end Canonical

end Mrtd.Der
