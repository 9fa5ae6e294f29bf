import Mrtd.Sod.Verification

/-!
Why a security object is rejected. Each step of the reading, down to the certificates that are
embedded and the names of the algorithms, either succeeds or blames the octets; no step reports a
failure of anything else. So a rejection is one error of a security object, of one of two kinds.
-/

namespace Mrtd

section Readings

variable {ε α β : Type} {x : Except Error α}

/-- A reading that fails says that what it read cannot be judged. -/
def BlamesInput (x : Except Error α) : Prop :=
  ∀ e, x = .error e → e.isUnevaluableInput = true

namespace BlamesInput

theorem ok (a : α) : BlamesInput (.ok a : Except Error α) := by
  intro e h
  cases h

theorem error {e : Error} (h : e.isUnevaluableInput = true) :
    BlamesInput (.error e : Except Error α) := by
  intro e' he'
  obtain rfl := Except.error.inj he'
  exact h

theorem bind {f : α → Except Error β} (h : BlamesInput x) (hrest : ∀ a, BlamesInput (f a)) :
    BlamesInput (x >>= f) := by
  intro e he
  rcases bind_eq_error_iff.1 he with hx | ⟨a, _, ha⟩
  · exact h e hx
  · exact hrest a e ha

theorem mapError {x : Except ε α} {f : ε → Error} (hf : ∀ e, (f e).isUnevaluableInput = true) :
    BlamesInput (x.mapError f) := by
  intro e he
  obtain ⟨inner, _, rfl⟩ := mapError_eq_error_iff.1 he
  exact hf inner

theorem list_mapM {f : α → Except Error β} (hf : ∀ a, BlamesInput (f a)) (as : List α) :
    BlamesInput (as.mapM f) := by
  induction as with
  | nil => exact ok []
  | cons a rest ih =>
      rw [List.mapM_cons]
      exact (hf a).bind fun b => ih.bind fun bs => ok (b :: bs)

theorem option_mapM {f : α → Except Error β} (hf : ∀ a, BlamesInput (f a)) (o : Option α) :
    BlamesInput (o.mapM f) := by
  cases o with
  | none => exact ok none
  | some a => exact (hf a).bind fun b => ok (some b)

end BlamesInput

end Readings

theorem DigestAlgorithm.ofOid_blamesInput (oid : String) : BlamesInput (ofOid oid) := by
  unfold ofOid
  split
  · exact .ok _
  · exact .error rfl

theorem Certificate.ofDer_blamesInput (type : CertificateType) (der : Bytes) :
    BlamesInput (ofDer type der) :=
  .mapError fun _ => rfl

namespace Sod

theorem Fault.blamesInput {α : Type} {x : Except Fault α} : BlamesInput (x.mapError Fault.error) :=
  .mapError fun _ => rfl

theorem SecurityTable.decode_blamesInput (octets : Bytes) : BlamesInput (decode octets) := by
  unfold decode
  split
  · rename_i table _
    refine (DigestAlgorithm.ofOid_blamesInput _).bind fun algorithm => ?_
    refine Fault.blamesInput.bind fun digests => ?_
    exact Fault.blamesInput.bind fun version => .ok _
  · exact .error rfl

theorem SignerId.ofIdentifier_blamesInput (id : Cms.SignerIdentifier) :
    BlamesInput (ofIdentifier id) := by
  unfold ofIdentifier
  split
  · split
    · exact .ok _
    · exact .error rfl
  · exact .ok _

namespace SignedAttributes

theorem contentTypeOf_blamesInput (e : Der.Element) : BlamesInput (contentTypeOf e) := by
  unfold contentTypeOf
  split
  · exact .ok _
  · exact .error rfl

theorem collect_blamesInput (digest : Option Bytes) (type : Option String)
    (attributes : List Cms.Attribute) : BlamesInput (collect digest type attributes) := by
  fun_induction collect digest type attributes with
  | case1 => exact .ok _
  | case2 _ _ _ _ _ ih => exact ih
  | case3 _ _ _ _ _ _ _ _ ih => exact ih
  | case4 _ _ _ _ _ _ _ _ _ ih => exact (contentTypeOf_blamesInput _).bind ih
  | case5 _ _ _ _ _ _ _ _ _ ih => exact ih

theorem ofAttributes_blamesInput (attributes : List Cms.Attribute) :
    BlamesInput (ofAttributes attributes) := by
  refine (collect_blamesInput none none attributes).bind ?_
  rintro ⟨_ | digest, type⟩
  · exact .error rfl
  · exact .ok _

end SignedAttributes

namespace SecurityObject

theorem embeddedSignerOf_blamesInput (d : Cms.SignedData) (id : SignerId) :
    BlamesInput (embeddedSignerOf d id) := by
  have hread : BlamesInput (d.properCertificates.mapM (Certificate.ofDer .dsc)) :=
    .list_mapM (Certificate.ofDer_blamesInput .dsc) _
  exact hread.bind fun certificates => .ok _

theorem signedBytesOf_blamesInput (raw : Option Bytes) (attributes : Option SignedAttributes)
    (content : Bytes) : BlamesInput (signedBytesOf raw attributes content) := by
  unfold signedBytesOf
  split
  · exact .ok _
  · exact .error rfl
  · exact .ok _

/-- Octets that are no security object are to blame for it themselves. -/
theorem decode_blamesInput (octets : Bytes) : BlamesInput (decode octets) := by
  refine Fault.blamesInput.bind ?_
  rintro ⟨element, d⟩
  refine Fault.blamesInput.bind fun content => ?_
  refine (SecurityTable.decode_blamesInput content).bind fun table => ?_
  cases d.signers.head? with
  | none => exact .error rfl
  | some signer =>
      refine (DigestAlgorithm.ofOid_blamesInput _).bind fun digestAlgorithm => ?_
      refine (SignerId.ofIdentifier_blamesInput _).bind fun signerId => ?_
      refine (embeddedSignerOf_blamesInput d signerId).bind fun embeddedSigner => ?_
      refine BlamesInput.bind (.option_mapM SignedAttributes.ofAttributes_blamesInput _) ?_
      intro signedAttributes
      refine Fault.blamesInput.bind fun raw => ?_
      refine (signedBytesOf_blamesInput _ _ _).bind fun signedBytes => ?_
      exact .ok _

end SecurityObject

/-- Errors that blame the input are of two kinds as errors of a security object. -/
theorem SodError.ofError_code {e : Error} (h : e.isUnevaluableInput = true) :
    (SodError.ofError e).code = .decodeFailed ∨
      (SodError.ofError e).code = .unsupportedAlgorithm := by
  cases e with
  | certificateParse reason | crlParse reason | sodDecode reason => exact .inl rfl
  | unsupportedAlgorithm what => exact .inr rfl
  | repository reason | chainValidation reason | config reason | io reason => cases h

end Sod

end Mrtd
