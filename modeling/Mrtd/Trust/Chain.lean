import Mrtd.Finding
import Mrtd.Policy.Basic
import Mrtd.Repository
import Mrtd.Signature.Verifier

/-!
Trust chains: the walk along issuer links from a certificate up to a trust anchor or a self-signed
root. At each step one issuer is chosen, the best of those whose name fits; the walk never turns
back, and no certificate occurs twice.
-/

namespace Mrtd

/-- Certificates from an end entity, which is always there, up to an anchor. -/
structure TrustChain where
  endEntity : Certificate
  issuers : List Certificate
deriving DecidableEq, Repr

namespace TrustChain

/-- The certificates in order, the end entity first. -/
def certificates (chain : TrustChain) : List Certificate :=
  chain.endEntity :: chain.issuers

def anchor (chain : TrustChain) : Certificate :=
  chain.issuers.getLastD chain.endEntity

def size (chain : TrustChain) : Nat :=
  chain.certificates.length

def hops (chain : TrustChain) : Nat :=
  chain.issuers.length

/-- The pairs of child and parent. -/
def links (chain : TrustChain) : List (Certificate × Certificate) :=
  chain.certificates.zip chain.issuers

theorem size_eq (chain : TrustChain) : chain.size = chain.hops + 1 := rfl

@[simp] theorem head?_certificates (chain : TrustChain) :
    chain.certificates.head? = some chain.endEntity := rfl

@[simp] theorem getLast?_certificates (chain : TrustChain) :
    chain.certificates.getLast? = some chain.anchor := by
  simp [certificates, anchor, List.getLast?_cons]

@[simp] theorem length_links (chain : TrustChain) : chain.links.length = chain.hops := by
  simp [links, certificates, hops]

/-- The parents of the links are the issuers. -/
theorem map_snd_links (chain : TrustChain) : chain.links.map Prod.snd = chain.issuers := by
  simp [links, certificates, List.map_snd_zip]

end TrustChain

/-- Why there is no chain. -/
inductive ChainFailure where
  /-- A negative judgement. -/
  | invalid (finding : Finding)
  /-- A lookup or a signature check gave no answer. -/
  | operational (error : Error)
deriving DecidableEq, Repr

/-- The comparison of two issuer candidates of one child, each with its verdict on the child's
signature. The better candidate is the lesser: a signature that verifies, then a window that covers
the start of the child's, then the later start, then the lesser fingerprint. -/
def rankIssuers (child : Certificate) (a b : Bool × Certificate) : Ordering :=
  (compare b.1 a.1).then <|
    (compare (b.2.isValidAt child.notBefore) (a.2.isValidAt child.notBefore)).then <|
      (compare b.2.notBefore a.2.notBefore).then <|
        compare a.2.fingerprint b.2.fingerprint

namespace IssuerCandidates

/-- The first of the best elements of a list. -/
def best? {α : Type} (rank : α → α → Ordering) : List α → Option α
  | [] => none
  | a :: rest =>
      match best? rank rest with
      | none => some a
      | some b => some (if rank b a == .lt then b else a)

theorem best?_eq_none_iff {α : Type} {rank : α → α → Ordering} {as : List α} :
    best? rank as = none ↔ as = [] := by
  cases as with
  | nil => simp [best?]
  | cons a rest => simp only [best?]; split <;> simp

theorem mem_of_best? {α : Type} {rank : α → α → Ordering} {as : List α} {a : α}
    (h : best? rank as = some a) : a ∈ as := by
  induction as generalizing a with
  | nil => simp [best?] at h
  | cons first rest ih =>
      simp only [best?] at h
      split at h
      · simp_all
      · rename_i b hb
        obtain rfl := Option.some.inj h
        split
        · exact List.mem_cons_of_mem _ (ih hb)
        · exact List.mem_cons_self

/-- A check that fails counts against the candidate. -/
def verdict (verifier : SignatureVerifier) (child candidate : Certificate) : Bool :=
  match verifier.certificate child candidate with
  | .ok verifies => verifies
  | .error _ => false

/-- The best issuer of a child among some candidates. -/
def select (verifier : SignatureVerifier) (child : Certificate) (candidates : List Certificate) :
    Option Certificate :=
  (best? (rankIssuers child) (candidates.map fun c => (verdict verifier child c, c))).map Prod.snd

end IssuerCandidates

/-- What a walk depends on. -/
structure ChainBuilder where
  certificates : CertificateRepository
  verifier : SignatureVerifier
  policy : CrossCertificationPolicy

namespace ChainBuilder

/-- The certificate has its own name as issuer and verifies under its own key. -/
def isSelfSigned (b : ChainBuilder) (c : Certificate) : Except Error Bool :=
  if c.isSelfIssued then b.verifier.certificate c c else .ok false

/-- Of some certificates, those whose role may issue and which are not on the path yet. -/
def eligible (b : ChainBuilder) (path : List String) (found : List Certificate) :
    List Certificate :=
  found.filter fun c => b.policy.allowsIssuer c.type && !path.contains c.fingerprint

/-- The anchor is a candidate of its own: its name fits, it is not on the path yet, and it is not
among the certificates that are eligible. -/
def anchorJoins (b : ChainBuilder) (path : List String) (current : Certificate)
    (found : List Certificate) (anchor : Certificate) : Bool :=
  DistinguishedName.same anchor.subject current.issuer && !path.contains anchor.fingerprint &&
    !(b.eligible path found).any (·.fingerprint == anchor.fingerprint)

/-- The candidates for the issuer of a certificate: those in the repository that are eligible, then
the anchor if it is one of its own. -/
def candidates (b : ChainBuilder) (anchor : Option Certificate) (path : List String)
    (current : Certificate) : Except Error (List Certificate) :=
  (b.certificates.findBySubject current.issuer).map fun found =>
    b.eligible path found ++ (anchor.filter (b.anchorJoins path current found)).toList

/-- The finding of a walk that ends at a root other than the anchor. -/
def wrongRoot (c root anchor : Certificate) : Finding :=
  .about c .trustAnchorNotFound ("chain ends at root '" ++ root.subject ++
    "' which is not the expected anchor '" ++ anchor.subject ++ "'")

/-- The finding of a walk that reaches its limit. -/
def tooLong (c : Certificate) (maxDepth : Nat) : Finding :=
  .about c .chainTooLong ("no root within " ++ toString maxDepth ++ " issuer hops")

/-- The finding of a walk that finds no issuer. -/
def broken (c current : Certificate) : Finding :=
  .about c .chainBroken ("no issuer found for '" ++ current.issuer ++ "'")

/-- Whether a walk ends at a certificate: it is the anchor, or without an anchor it is self-signed. A
root other than the anchor fails the walk. -/
def atEnd (b : ChainBuilder) (c : Certificate) (anchor : Option Certificate)
    (current : Certificate) : Except ChainFailure Bool :=
  if anchor.any (·.fingerprint == current.fingerprint) then .ok true
  else
    match b.isSelfSigned current, anchor with
    | .error e, _ => .error (.operational e)
    | .ok true, some a => .error (.invalid (wrongRoot c current a))
    | .ok selfSigned, _ => .ok selfSigned

/-- The issuer of a certificate that a walk goes on to. -/
def next (b : ChainBuilder) (c : Certificate) (anchor : Option Certificate) (path : List String)
    (current : Certificate) : Except ChainFailure Certificate := do
  let cs ← (b.candidates anchor path current).mapError .operational
  match IssuerCandidates.select b.verifier current cs with
  | some issuer => pure issuer
  | none => throw (.invalid (broken c current))

/-- The issuers above `current`. `path` holds the fingerprints met so far, that of `current` among
them; the number is how many more links there may be. -/
def walk (b : ChainBuilder) (c : Certificate) (anchor : Option Certificate) (maxDepth : Nat) :
    Nat → List String → Certificate → Except ChainFailure (List Certificate)
  | 0, _, current => do
      if ← b.atEnd c anchor current then pure []
      else throw (.invalid (tooLong c maxDepth))
  | left + 1, path, current => do
      if ← b.atEnd c anchor current then pure []
      else
        let issuer ← b.next c anchor path current
        pure (issuer :: (← b.walk c anchor maxDepth left (issuer.fingerprint :: path) issuer))

section Walk

variable {b : ChainBuilder} {c : Certificate} {anchor : Option Certificate} {maxDepth left : Nat}
  {path : List String} {current issuer : Certificate} {failure : ChainFailure}

theorem walk_of_atEnd_error (h : b.atEnd c anchor current = .error failure) :
    b.walk c anchor maxDepth left path current = .error failure := by
  cases left <;> rw [walk, h] <;> rfl

theorem walk_of_atEnd_true (h : b.atEnd c anchor current = .ok true) :
    b.walk c anchor maxDepth left path current = .ok [] := by
  cases left <;> rw [walk, h] <;> rfl

theorem walk_zero_of_atEnd_false (h : b.atEnd c anchor current = .ok false) :
    b.walk c anchor maxDepth 0 path current = .error (.invalid (tooLong c maxDepth)) := by
  rw [walk, h]
  rfl

theorem walk_succ_of_next_error (h : b.atEnd c anchor current = .ok false)
    (hnext : b.next c anchor path current = .error failure) :
    b.walk c anchor maxDepth (left + 1) path current = .error failure := by
  rw [walk, h, hnext]
  rfl

theorem walk_succ_of_next_ok (h : b.atEnd c anchor current = .ok false)
    (hnext : b.next c anchor path current = .ok issuer) :
    b.walk c anchor maxDepth (left + 1) path current =
      (b.walk c anchor maxDepth left (issuer.fingerprint :: path) issuer).map (issuer :: ·) := by
  rw [walk, h, hnext]
  rfl

end Walk

/-- The chain of a certificate. It ends at the anchor, known by its fingerprint, or without an
anchor at a self-signed certificate, and has at most `maxDepth` links. -/
def build (b : ChainBuilder) (c : Certificate) (anchor : Option Certificate) (maxDepth : Nat) :
    Except ChainFailure TrustChain :=
  (b.walk c anchor maxDepth maxDepth [c.fingerprint] c).map fun issuers => ⟨c, issuers⟩

end ChainBuilder

end Mrtd
