import Mrtd.Cli.Command
import Mrtd.Cli.Help
import Mrtd.Cli.Result
import Mrtd.Store.Directory
import Mrtd.Trust.Validation

/-!
The command line program, up to input and output: from its arguments, its environment and the files
to what it prints and its exit code.
-/

namespace Mrtd.Cli

/-- Why a command could not be carried out. -/
inductive Failure where
  | noSettingsDirectory
  | unreadable (path : String)
  | unreadableGroup (number : Nat) (path : String)
  | repeatedGroup (number : Nat)
  | malformedSettings (path : String)
  | undecodable (path : String) (e : Error)
  | load (f : LoadFailure)
  | error (e : Error)
deriving DecidableEq, Repr

/-- The wording of a failure, followed by that of its cause. -/
def Failure.messages : Failure → List String
  | noSettingsDirectory => ["Could not determine config directory"]
  | unreadable path => ["reading " ++ path, "no such file"]
  | unreadableGroup number path =>
      ["reading data group " ++ toString number ++ " from " ++ path, "no such file"]
  | repeatedGroup number => ["data group " ++ toString number ++ " given more than once"]
  | malformedSettings path => ["parsing " ++ path, "malformed settings"]
  | undecodable path e => ["decoding " ++ path, e.message]
  | load f => f.messages
  | error e => [e.message]

/-- The surroundings of a run. -/
structure Surroundings where
  files : FileSystem
  /-- The variables of the environment. -/
  environment : String → Option String
  now : Timestamp

namespace Surroundings

/-- The contents of a file. -/
def read (s : Surroundings) (path : String) (failure : Failure) : Except Failure Bytes :=
  match s.files.fileContents? path with
  | some contents => .ok contents
  | none => .error failure

/-- The path of the settings file. -/
def settingsPath (s : Surroundings) : Except Failure String :=
  match Settings.path? s.environment with
  | some path => .ok path
  | none => .error .noSettingsDirectory

/-- The settings. Without a file they are the default ones; those of a file are checked. -/
def settings (s : Surroundings) : Except Failure Settings := do
  let path ← s.settingsPath
  if !s.files.holds path then return {}
  let contents ← s.read path (.unreadable path)
  let some text := Text.ofUtf8? contents | throw (.unreadable path)
  let some settings := Settings.ofToml? text | throw (.malformedSettings path)
  settings.validation.check.mapError .error
  pure settings

/-- The stores of a directory; without one they are empty. -/
def load (s : Surroundings) : Option String → Except Failure LoadedStore
  | some path => (StoreDirectory.load s.files path).mapError .load
  | none => .ok .empty

/-- A certificate in a file. -/
def certificate (s : Surroundings) (path : String) (type : CertificateType) :
    Except Failure Certificate :=
  (StoreDirectory.readCertificate s.files path type).mapError .load

/-- Validates a certificate. -/
def validate (s : Surroundings) (store : Option String) (policy : ValidationPolicy)
    (c : ValidateCommand) : Except Failure Result := do
  let policy := { policy with maxChainDepth := c.maxDepth.getD policy.maxChainDepth }
  policy.check.mapError .error
  let checkRevocation := policy.checkRevocation && !c.skipRevocation
  let subject ← s.certificate c.certificate c.type
  let anchor ← c.anchor.mapM fun path => s.certificate path .csca
  let loaded ← s.load store
  let validator : CertificateValidator := {
    certificates := loaded.certificates.repository
    lists := loaded.lists.repository
    verifier := .standard
    policy := policy }
  let report ← (validator.validate s.now subject anchor checkRevocation).mapError .error
  pure (.validated subject report checkRevocation)

/-- Reads data groups one after the other. None may be given twice. -/
def dataGroups (s : Surroundings) (found : List (Nat × Bytes)) :
    List DataGroupArgument → Except Failure (List (Nat × Bytes))
  | [] => .ok found
  | a :: rest => do
      let contents ← s.read a.path (.unreadableGroup a.number a.path)
      if found.any (·.1 == a.number) then throw (.repeatedGroup a.number)
      s.dataGroups (found ++ [(a.number, contents)]) rest

def authenticate (s : Surroundings) (store : Option String) (policy : AuthenticationPolicy)
    (c : AuthenticateCommand) : Except Failure Result := do
  let sod ← s.read c.sod (.unreadable c.sod)
  let groups ← s.dataGroups [] c.dataGroups
  let loaded ← s.load store
  let authenticator : Authenticator := {
    certificates := loaded.certificates.repository
    lists := loaded.lists.repository
    verifier := .standard
    policy := policy }
  let report ← (authenticator.authenticate s.now {
    sod := sod
    dataGroups := groups
    issuingCountry := c.country
    documentNumber := c.documentNumber }).mapError .error
  pure (.authenticated report)

/-- Decodes a security object. -/
def inspect (s : Surroundings) (path : String) : Except Failure Result := do
  let contents ← s.read path (.unreadable path)
  let so ← (Sod.SecurityObject.decode contents).mapError (.undecodable path)
  pure (.inspected so)

/-- Carries out a command under the settings in effect. -/
def carryOut (s : Surroundings) (settings : Settings) : Command → Except Failure Result
  | .validate c => s.validate settings.store settings.validation c
  | .authenticate c => s.authenticate settings.store {
      validation := settings.validation
      requireEmbeddedSigner := c.requireEmbeddedSigner || settings.requireEmbeddedSigner } c
  | .inspect path => s.inspect path
  | .showSettings => .ok (.settings settings)
  | .settingsPath => s.settingsPath.map .settingsPath

end Surroundings

/-- What the arguments say wins over the settings file. -/
def Settings.override (s : Settings) (i : Invocation) : Settings :=
  { s with
    store := i.store.or s.store
    outputFormat := some ((i.output.or s.outputFormat).getD .pretty) }

/-- How a run ends. -/
inductive Ending where
  /-- The arguments were not understood, or help or the version was asked for. -/
  | stopped (stop : Stop)
  | failed (f : Failure)
  | finished (format : OutputFormat) (r : Result)
deriving DecidableEq, Repr

namespace Ending

/-- The exit code. -/
def code : Ending → Nat
  | stopped .usage => 2
  | stopped .help | stopped .version => 0
  | failed _ => 1
  | finished _ r => if r.passed then 0 else 1

/-- What is printed as the result. -/
def output (occasion : Occasion) : Ending → String
  | stopped stop => stop.output
  | failed _ => ""
  | finished format r => r.text format occasion

/-- What is printed as the error. The causes of an error follow it. -/
def complaint : Ending → String
  | stopped stop => stop.complaint
  | failed f =>
      match f.messages with
      | [] => ""
      | [e] => "Error: " ++ e ++ "\n"
      | e :: causes => "Error: " ++ e ++ "\n\nCaused by:\n" ++
          String.join (causes.map fun cause => "    " ++ cause ++ "\n")
  | finished _ _ => ""

end Ending

/-- Runs the program. -/
def run (s : Surroundings) (arguments : List String) : Ending :=
  match Invocation.read s.environment arguments with
  | .error stop => .stopped stop
  | .ok i =>
      match (s.settings.map (·.override i)) with
      | .error f => .failed f
      | .ok settings =>
          match s.carryOut settings i.command with
          | .error f => .failed f
          | .ok r => .finished (settings.outputFormat.getD .pretty) r

end Mrtd.Cli
