import Mrtd.FileTree
import Mrtd.Policy.Settings
import Mrtd.Record

/-!
The settings of the command line program: what its settings file holds, where it lies and how it is
written.
-/

namespace Mrtd.Cli

open Format

/-- How results are printed. -/
inductive OutputFormat where
  /-- For people. -/
  | pretty
  | json
deriving DecidableEq, Repr

namespace OutputFormat

def name : OutputFormat → String
  | pretty => "pretty"
  | json => "json"

def all : List OutputFormat := [pretty, json]

/-- The format with exactly this name. -/
def ofName? (s : String) : Option OutputFormat := all.find? (·.name == s)

/-- Reads a format in any letter case; `table` is another name of the first. -/
def parse (s : String) : Except String OutputFormat :=
  let key := Text.lower s
  if key = "pretty" ∨ key = "table" then .ok pretty
  else if key = "json" then .ok json
  else .error ("Unknown output format: " ++ s ++ "\nValid formats: pretty, json")

/-- A value without contents. -/
def isVoid : Value → Bool
  | .table [] | .array [] => true
  | _ => false

/-- The format that a value names, as a text or as the name of its one, void field. -/
def ofValue? : Value → Option OutputFormat
  | .text s => ofName? s
  | .table [(name, v)] => if isVoid v then ofName? name else none
  | _ => none

end OutputFormat

/-- The settings. -/
structure Settings where
  /-- The store directory. -/
  store : Option String := none
  outputFormat : Option OutputFormat := none
  requireEmbeddedSigner : Bool := false
  validation : ValidationPolicy := {}
deriving DecidableEq, Repr

namespace Settings

/-- The settings that a value holds. -/
def ofValue? (v : Value) : Option Settings := do
  let field ← v.fields? false ["store", "output_format", "require_embedded_signer", "validation"]
  some {
    store := ← Value.readOr (fun v => v.text?.map some) none (field "store")
    outputFormat := ← Value.readOr (fun v => (OutputFormat.ofValue? v).map some) none
      (field "output_format")
    requireEmbeddedSigner := ← Value.flagOr false (field "require_embedded_signer")
    validation := ← Value.readOr (ValidationPolicy.ofValue? false) {} (field "validation") }

/-- The settings in a TOML document. -/
def ofToml? (text : String) : Option Settings :=
  (Toml.parse? text).bind ofValue?

/-- Where the settings file lies: below the configuration directory of the user, which an absolute
`XDG_CONFIG_HOME` names, or else below the home directory. -/
def path? (environment : String → Option String) : Option String :=
  let base := match (environment "XDG_CONFIG_HOME").filter Path.isAbsolute with
    | some directory => some directory
    | none => ((environment "HOME").filter fun (home : String) => !home.isEmpty).map fun home =>
        Path.entry home ".config"
  base.map fun directory => Path.entry (Path.entry directory "pkd") "config.toml"

/-- The settings as a record. -/
def record (s : Settings) : Value := .table [
  ("store", .ofText? s.store),
  ("output_format", .ofOption (fun f => .text f.name) s.outputFormat),
  ("require_embedded_signer", .boolean s.requireEmbeddedSigner),
  ("validation", s.validation.record)]

/-- A truth value in a settings file. -/
def truth (b : Bool) : String := if b then "true" else "false"

/-- The lines of a settings file. What is not set is left out. -/
def lines (s : Settings) : List String :=
  let p := s.validation
  (s.store.map fun path => "store = " ++ Toml.quoted path).toList ++
  (s.outputFormat.map fun f => "output_format = " ++ Toml.quoted f.name).toList ++ [
    "require_embedded_signer = " ++ truth s.requireEmbeddedSigner,
    "",
    "[validation]",
    "max_chain_depth = " ++ toString p.maxChainDepth,
    "check_revocation = " ++ truth p.checkRevocation,
    "crl_country_fallback = " ++ truth p.crlCountryFallback,
    "tolerate_expired_signer = " ++ truth p.tolerateExpiredSigner,
    "",
    "[validation.cross_certification]",
    "allow_dsc_issuers = " ++ truth p.crossCertification.allowDscIssuers,
    "allow_mlsc_issuers = " ++ truth p.crossCertification.allowMlscIssuers]

end Settings

end Mrtd.Cli
