/-!
Operational failures: conditions under which a certificate, a revocation list or a document could
not be judged at all. A negative judgement is never one of them; it is a finding inside a report.
-/

namespace Mrtd

/-- What could not be done, with the reason in words. -/
inductive Error where
  /-- Octets that are no certificate. -/
  | certificateParse (reason : String)
  /-- Octets that are no revocation list. -/
  | crlParse (reason : String)
  /-- Octets that are no document security object. -/
  | sodDecode (reason : String)
  /-- An algorithm identifier that names nothing known here. -/
  | unsupportedAlgorithm (what : String)
  /-- A lookup that gave no answer. -/
  | repository (reason : String)
  /-- A certificate that its supposed issuer did not issue. -/
  | chainValidation (reason : String)
  /-- Settings that make no sense. -/
  | config (reason : String)
  /-- A file that could not be read. -/
  | io (reason : String)
deriving DecidableEq, Repr

namespace Error

def message : Error → String
  | certificateParse reason => "certificate parse error: " ++ reason
  | crlParse reason => "CRL parse error: " ++ reason
  | sodDecode reason => "SOD decode error: " ++ reason
  | unsupportedAlgorithm what => "unsupported algorithm: " ++ what
  | repository reason => "repository unavailable: " ++ reason
  | chainValidation reason => "trust chain validation failed: " ++ reason
  | config reason => "configuration error: " ++ reason
  | io reason => "io error: " ++ reason

/-- The failure lies with a collaborator and not with the material under judgement. -/
def isRepository : Error → Bool
  | repository _ => true
  | _ => false

/-- The material itself cannot be judged: undecodable octets, or an unknown algorithm. -/
def isUnevaluableInput : Error → Bool
  | certificateParse _ | crlParse _ | sodDecode _ | unsupportedAlgorithm _ => true
  | _ => false

end Error

section Steps

variable {ε ε' α β : Type}

theorem bind_eq_ok_iff {x : Except ε α} {f : α → Except ε β} {b : β} :
    x >>= f = .ok b ↔ ∃ a, x = .ok a ∧ f a = .ok b := by
  cases x <;> simp [bind, Except.bind]

theorem bind_eq_error_iff {x : Except ε α} {f : α → Except ε β} {e : ε} :
    x >>= f = .error e ↔ x = .error e ∨ ∃ a, x = .ok a ∧ f a = .error e := by
  cases x <;> simp [bind, Except.bind]

theorem map_eq_ok_iff {f : α → β} {x : Except ε α} {b : β} :
    x.map f = .ok b ↔ ∃ a, x = .ok a ∧ f a = b := by
  cases x <;> simp [Except.map]

theorem map_eq_error_iff {f : α → β} {x : Except ε α} {e : ε} :
    x.map f = .error e ↔ x = .error e := by
  cases x <;> simp [Except.map]

@[simp] theorem mapError_ok {f : ε → ε'} {a : α} :
    (Except.ok a : Except ε α).mapError f = .ok a := rfl

@[simp] theorem mapError_error {f : ε → ε'} {e : ε} :
    (Except.error e : Except ε α).mapError f = .error (f e) := rfl

theorem mapError_eq_ok_iff {f : ε → ε'} {x : Except ε α} {a : α} :
    x.mapError f = .ok a ↔ x = .ok a := by
  cases x <;> simp

theorem mapError_eq_error_iff {f : ε → ε'} {x : Except ε α} {e' : ε'} :
    x.mapError f = .error e' ↔ ∃ e, x = .error e ∧ f e = e' := by
  cases x <;> simp

theorem exists_of_mem_mapM {f : α → Except ε β} {as : List α} {bs : List β} {b : β}
    (h : as.mapM f = .ok bs) (hb : b ∈ bs) : ∃ a ∈ as, f a = .ok b := by
  induction as generalizing bs with
  | nil =>
      obtain rfl := Except.ok.inj h
      cases hb
  | cons a rest ih =>
      rw [List.mapM_cons] at h
      obtain ⟨first, hfirst, h⟩ := bind_eq_ok_iff.1 h
      obtain ⟨others, hothers, h⟩ := bind_eq_ok_iff.1 h
      obtain rfl := Except.ok.inj h
      rcases List.mem_cons.1 hb with rfl | hmem
      · exact ⟨a, List.mem_cons_self, hfirst⟩
      · obtain ⟨found, hfound, hread⟩ := ih hothers hmem
        exact ⟨found, List.mem_cons_of_mem a hfound, hread⟩

theorem exists_ok_of_mapM {f : α → Except ε β} {as : List α} {bs : List β} {a : α}
    (h : as.mapM f = .ok bs) (ha : a ∈ as) : ∃ b ∈ bs, f a = .ok b := by
  induction as generalizing bs with
  | nil => cases ha
  | cons first rest ih =>
      rw [List.mapM_cons] at h
      obtain ⟨b, hb, h⟩ := bind_eq_ok_iff.1 h
      obtain ⟨others, hothers, h⟩ := bind_eq_ok_iff.1 h
      obtain rfl := Except.ok.inj h
      rcases List.mem_cons.1 ha with rfl | hrest
      · exact ⟨b, List.mem_cons_self, hb⟩
      · obtain ⟨found, hfound, hread⟩ := ih hothers hrest
        exact ⟨found, List.mem_cons_of_mem b hfound, hread⟩

theorem toOption_eq_some_iff {x : Except ε α} {a : α} : x.toOption = some a ↔ x = .ok a := by
  cases x <;> simp [Except.toOption]

end Steps

end Mrtd
