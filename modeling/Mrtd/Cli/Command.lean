import Mrtd.Cli.Arguments
import Mrtd.Cli.DataGroupArgument
import Mrtd.Cli.Settings

/-!
Commands of the command line program and how they are read from its arguments. A command line has a
level for the program itself and one for every subcommand; some options are understood at each.
-/

namespace Mrtd.Cli

/-- The validation of one certificate. -/
structure ValidateCommand where
  certificate : String
  type : CertificateType := .dsc
  anchor : Option String := none
  skipRevocation : Bool := false
  maxDepth : Option Nat := none
deriving DecidableEq, Repr

/-- Passive Authentication of one document. -/
structure AuthenticateCommand where
  sod : String
  dataGroups : List DataGroupArgument
  country : String
  documentNumber : String
  requireEmbeddedSigner : Bool := false
deriving DecidableEq, Repr

/-- What is to be done. -/
inductive Command where
  | validate (c : ValidateCommand)
  | authenticate (c : AuthenticateCommand)
  /-- Decode the security object in a file. -/
  | inspect (path : String)
  | showSettings
  | settingsPath
deriving DecidableEq, Repr

/-- A command and what goes for all commands. -/
structure Invocation where
  /-- The store directory. -/
  store : Option String
  output : Option OutputFormat
  command : Command
deriving DecidableEq, Repr

namespace Command

/-- A path that may be given. -/
def isPath (value : String) : Bool := !value.isEmpty

/-- A number of at most 64 bits in decimal digits, with or without a plus sign. -/
def size? (value : String) : Option Nat :=
  let digits := match value.toList with
    | '+' :: digits => digits
    | digits => digits
  if !digits.isEmpty && digits.all Char.isDigit && DataGroup.decimal digits < Nat.pow 2 64 then
    some (DataGroup.decimal digits)
  else none

/-- The options of every level. -/
def commonOptions : List OptionSpec := [
  { name := "store", letter := some 's', accepts := isPath },
  { name := "output", letter := some 'o', accepts := fun v => (OutputFormat.ofName? v).isSome },
  { name := "verbose", letter := some 'v', takesValue := false },
  { name := "no-color", takesValue := false }]

/-- The level of the program. -/
def topLevel : LevelSpec where
  options := commonOptions
  subcommands := ["validate", "pa", "inspect-sod", "config", "help"]

/-- The level of `validate`. -/
def validateLevel : LevelSpec where
  options := commonOptions ++ [
    { name := "type", letter := some 't', accepts := fun v => (CertificateType.ofName v).toBool },
    { name := "anchor", accepts := isPath },
    { name := "no-revocation", takesValue := false },
    { name := "max-depth", accepts := fun v => (size? v).isSome }]
  positionals := 1

/-- The level of `pa`. -/
def authenticateLevel : LevelSpec where
  options := commonOptions ++ [
    { name := "sod", accepts := isPath },
    { name := "dg", repeatable := true, accepts := DataGroupArgument.accepts },
    { name := "country", letter := some 'c' },
    { name := "document-number", letter := some 'n' },
    { name := "require-embedded-signer", takesValue := false }]

/-- The level of `inspect-sod`. -/
def inspectLevel : LevelSpec where
  options := commonOptions
  positionals := 1

/-- The level of `config`. -/
def configLevel : LevelSpec where
  options := commonOptions
  subcommands := ["show", "path", "help"]

/-- A level without anything of its own. -/
def plainLevel : LevelSpec where
  options := commonOptions

/-- What must be there. -/
def required {α : Type} : Option α → Except Stop α
  | some a => .ok a
  | none => .error .usage

/-- Help on the subcommand that some names lead to, from a level with these subcommands. -/
def help (subcommands : List String) : List String → Stop
  | [] => .help
  | name :: rest =>
      if subcommands.contains name then
        help (if name = "config" then configLevel.subcommands else []) rest
      else .usage

/-- The command of the level of `validate`. -/
def ofValidateLevel (l : Level) : Except Stop Command := do
  pure (.validate {
    certificate := ← required l.positionals.head?
    type := ((l.value? "type").bind fun name => (CertificateType.ofName name).toOption).getD .dsc
    anchor := l.value? "anchor"
    skipRevocation := l.has "no-revocation"
    maxDepth := (l.value? "max-depth").bind size? })

/-- The command of the level of `pa`. -/
def ofAuthenticateLevel (l : Level) : Except Stop Command := do
  pure (.authenticate {
    sod := ← required (l.value? "sod")
    dataGroups := (l.values "dg").filterMap fun v => (DataGroupArgument.parse v).toOption
    country := ← required (l.value? "country")
    documentNumber := ← required (l.value? "document-number")
    requireEmbeddedSigner := l.has "require-embedded-signer" })

/-- The levels below that of `config`, and the command. -/
def readConfig (level : Level) : Except Stop (List Level × Command) := do
  let (name, rest) ← required level.subcommand
  if name = "help" then throw (help configLevel.subcommands rest)
  let last ← plainLevel.read rest
  pure ([last], if name = "show" then .showSettings else .settingsPath)

/-- The levels below that of the program, and the command. -/
def readBelow (name : String) (rest : List String) : Except Stop (List Level × Command) :=
  match name with
  | "validate" => do
      let level ← validateLevel.read rest
      pure ([level], ← ofValidateLevel level)
  | "pa" => do
      let level ← authenticateLevel.read rest
      pure ([level], ← ofAuthenticateLevel level)
  | "inspect-sod" => do
      let level ← inspectLevel.read rest
      pure ([level], .inspect (← required level.positionals.head?))
  | "config" => do
      let level ← configLevel.read rest
      let (below, command) ← readConfig level
      pure (level :: below, command)
  | _ => .error (help topLevel.subcommands rest)

end Command

namespace Invocation

/-- The value of an option of every level: that of the lowest level counts. -/
def lowest? (name : String) (levels : List Level) : Option String :=
  (levels.filterMap (·.value? name)).getLast?

/-- The store directory of the environment stands in for the option at each level; one that is empty
is refused at a level without the option. -/
def storeOf (environment : String → Option String) (levels : List Level) :
    Except Stop (Option String) :=
  let named := environment "PKD_STORE"
  if named == some "" && levels.any (!·.has "store") then .error .usage
  else .ok ((lowest? "store" levels).or named)

/-- The files that a command reads. -/
def files (i : Invocation) : List String :=
  match i.command with
  | .validate c => c.certificate :: c.anchor.toList
  | .authenticate c => c.sod :: c.dataGroups.map (·.path)
  | .inspect path => [path]
  | .showSettings | .settingsPath => []

/-- Reads a command line. -/
def read (environment : String → Option String) (arguments : List String) :
    Except Stop Invocation := do
  let top ← Command.topLevel.read arguments
  let (name, rest) ← Command.required top.subcommand
  let (below, command) ← Command.readBelow name rest
  let levels := top :: below
  pure {
    store := ← storeOf environment levels
    output := (lowest? "output" levels).bind OutputFormat.ofName?
    command := command }

end Invocation

end Mrtd.Cli
