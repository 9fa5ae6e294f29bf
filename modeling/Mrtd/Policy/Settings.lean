import Mrtd.Format.Json
import Mrtd.Format.Toml
import Mrtd.Policy.Basic
import Mrtd.Text.Utf8

/-!
Policies as settings: how they are taken out of a value of a configuration format. A missing setting
has its default, an unknown one is passed over, and one of the wrong kind spoils the whole.
-/

namespace Mrtd

open Format

/-- A truth value that may be missing. -/
def Format.Value.flagOr (default : Bool) : Option Value → Option Bool :=
  Value.readOr Value.boolean? default

namespace CrossCertificationPolicy

def ofValue? (exact : Bool) (v : Value) : Option CrossCertificationPolicy := do
  let field ← v.fields? exact ["allow_dsc_issuers", "allow_mlsc_issuers"]
  some {
    allowDscIssuers := ← Value.flagOr false (field "allow_dsc_issuers")
    allowMlscIssuers := ← Value.flagOr false (field "allow_mlsc_issuers") }

end CrossCertificationPolicy

namespace ValidationPolicy

def ofValue? (exact : Bool) (v : Value) : Option ValidationPolicy := do
  let field ← v.fields? exact ["max_chain_depth", "check_revocation", "crl_country_fallback",
    "cross_certification", "tolerate_expired_signer"]
  some {
    maxChainDepth := ← Value.readOr Value.size? 5 (field "max_chain_depth")
    checkRevocation := ← Value.flagOr true (field "check_revocation")
    crlCountryFallback := ← Value.flagOr true (field "crl_country_fallback")
    crossCertification := ← Value.readOr (CrossCertificationPolicy.ofValue? exact) {}
      (field "cross_certification")
    tolerateExpiredSigner := ← Value.flagOr false (field "tolerate_expired_signer") }

/-- Why a text holds no settings. -/
def unreadable : Error := .config "malformed settings"

/-- Reads a policy from a TOML document and checks it. -/
def ofToml (text : String) : Except Error ValidationPolicy := do
  match (Toml.parse? text).bind (ofValue? false) with
  | some policy =>
      policy.check
      pure policy
  | none => throw unreadable

/-- The policy of a settings file, whose octets are given if there is one. -/
def ofFile (contents : Option Bytes) : Except Error ValidationPolicy :=
  match contents with
  | none => .ok {}
  | some octets =>
      match Text.ofUtf8? octets with
      | some text => ofToml text
      | none => .error (.io "the settings are not text")

end ValidationPolicy

namespace AuthenticationPolicy

def ofValue? (exact : Bool) (v : Value) : Option AuthenticationPolicy := do
  let field ← v.fields? exact ["validation", "require_embedded_signer"]
  some {
    validation := ← Value.readOr (ValidationPolicy.ofValue? exact) {} (field "validation")
    requireEmbeddedSigner := ← Value.flagOr false (field "require_embedded_signer") }

/-- Reads a policy from a JSON document, which gives fields by position in full or not at all. -/
def ofJson? (text : String) : Option AuthenticationPolicy :=
  (Json.parse? text).bind (ofValue? true)

end AuthenticationPolicy

end Mrtd
