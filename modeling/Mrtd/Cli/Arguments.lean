import Mrtd.Text.Blank

/-!
Command line arguments at one level of a command: options with or without values, in long and short
spellings, positional arguments, and the name of a subcommand, at which the level ends.
-/

namespace Mrtd.Cli

/-- An option of a command. -/
structure OptionSpec where
  /-- The long name, without its hyphens. -/
  name : String
  letter : Option Char := none
  takesValue : Bool := true
  repeatable : Bool := false
  /-- A value is acceptable. -/
  accepts : String → Bool := fun _ => true

/-- What a command understands. -/
structure LevelSpec where
  options : List OptionSpec
  /-- The greatest number of positional arguments, none of which may be empty. -/
  positionals : Nat := 0
  subcommands : List String := []

/-- Why reading arguments stops. -/
inductive Stop where
  /-- The arguments are not understood. -/
  | usage
  | help
  | version
deriving DecidableEq, Repr

/-- What was found at one level. -/
structure Level where
  /-- The options that occurred, in order, with their values. -/
  options : List (String × String) := []
  positionals : List String := []
  /-- The subcommand with the arguments after it. -/
  subcommand : Option (String × List String) := none
deriving DecidableEq, Repr

namespace Level

/-- The option occurred. -/
def has (l : Level) (name : String) : Bool := l.options.any (·.1 == name)

/-- The value of an option that occurs at most once. -/
def value? (l : Level) (name : String) : Option String := l.options.lookup name

/-- The values of an option in order. -/
def values (l : Level) (name : String) : List String :=
  (l.options.filter (·.1 == name)).map Prod.snd

/-- Enters an option. Only repeatable ones may occur twice. -/
def enter (l : Level) (o : OptionSpec) (value : String) : Except Stop Level :=
  if (l.has o.name && !o.repeatable) || (o.takesValue && !o.accepts value) then .error .usage
  else .ok { l with options := l.options ++ [(o.name, value)] }

/-- Enters a positional argument. -/
def position (spec : LevelSpec) (l : Level) (value : String) : Except Stop Level :=
  if spec.positionals ≤ l.positionals.length || value.isEmpty then .error .usage
  else .ok { l with positionals := l.positionals ++ [value] }

end Level

/-- How an argument is to be understood. -/
inductive Shape where
  /-- Two hyphens: what follows is positional. -/
  | escape
  /-- A long option, with the value that is attached to it. -/
  | long (name : String) (value : Option String)
  /-- Letters of short options. -/
  | short (letters : List Char)
  | plain

/-- The shape of an argument. A lone hyphen is a plain one. -/
def shapeOf (argument : String) : Shape :=
  match argument.toList with
  | ['-', '-'] => .escape
  | '-' :: '-' :: rest =>
      match Text.cutAt (· == '=') rest with
      | some (name, value) => .long (String.ofList name) (some (String.ofList value))
      | none => .long (String.ofList rest) none
  | '-' :: c :: rest => .short (c :: rest)
  | _ => .plain

namespace LevelSpec

/-- Asking for help or for the version ends everything. -/
def stopOf (name : String) : Option Stop :=
  if name = "help" then some .help else if name = "version" then some .version else none

/-- The same by letter. -/
def stopOfLetter (c : Char) : Option Stop :=
  if c == 'h' then some .help else if c == 'V' then some .version else none

/-- Reads a cluster of letters. The result names the option that still waits for a value. -/
def cluster (spec : LevelSpec) (l : Level) : List Char → Except Stop (Level × Option OptionSpec)
  | [] => .ok (l, none)
  | c :: rest =>
      match stopOfLetter c with
      | some stop => .error stop
      | none =>
          match spec.options.find? (·.letter == some c) with
          | none => .error .usage
          | some o =>
              if !o.takesValue then do spec.cluster (← l.enter o "") rest
              else
                match rest with
                | [] => .ok (l, some o)
                | '=' :: value => do pure (← l.enter o (String.ofList value), none)
                | value => do pure (← l.enter o (String.ofList value), none)

/-- Reads a long option. -/
def long (spec : LevelSpec) (l : Level) (name : String) (value : Option String) :
    Except Stop (Level × Option OptionSpec) :=
  match stopOf name, value with
  | some stop, none => .error stop
  | some _, some _ => .error .usage
  | none, _ =>
      match spec.options.find? (·.name == name) with
      | none => .error .usage
      | some o =>
          match o.takesValue, value with
          | false, none => do pure (← l.enter o "", none)
          | false, some _ => .error .usage
          | true, some v => do pure (← l.enter o v, none)
          | true, none => .ok (l, some o)

/-- Reads arguments one after the other. `waiting` is an option whose value comes next; after an
escape all arguments are positional. -/
def readFrom (spec : LevelSpec) (l : Level) (waiting : Option OptionSpec) (escaped : Bool) :
    List String → Except Stop Level
  | [] => if waiting.isSome then .error .usage else .ok l
  | argument :: rest =>
      if escaped then do spec.readFrom (← l.position spec argument) none true rest
      else
        match waiting, shapeOf argument with
        | some o, .plain => do spec.readFrom (← l.enter o argument) none false rest
        | some _, _ => .error .usage
        | none, .escape => spec.readFrom l none true rest
        | none, .long name value => do
            let (l, waiting) ← spec.long l name value
            spec.readFrom l waiting false rest
        | none, .short letters => do
            let (l, waiting) ← spec.cluster l letters
            spec.readFrom l waiting false rest
        | none, .plain =>
            if spec.subcommands.contains argument then
              .ok { l with subcommand := some (argument, rest) }
            else do spec.readFrom (← l.position spec argument) none false rest

/-- Reads the arguments of a command. -/
def read (spec : LevelSpec) (arguments : List String) : Except Stop Level :=
  spec.readFrom {} none false arguments

end LevelSpec

end Mrtd.Cli
