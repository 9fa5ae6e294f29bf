import Mrtd.Sod.DataGroups

/-!
Arguments that give a data group with its file, as `NUMBER=PATH`.
-/

namespace Mrtd.Cli

/-- A data group and the path of its file. -/
structure DataGroupArgument where
  number : Nat
  path : String
deriving DecidableEq, Repr

namespace DataGroupArgument

/-- Why an argument is refused. -/
inductive Fault where
  | noEqualsSign (argument : String)
  | badNumber (key : String)
  | noPath (number : Nat)
deriving DecidableEq, Repr

/-- The wording of a fault. -/
def Fault.message : Fault → String
  | noEqualsSign argument => "expected NUMBER=PATH, got '" ++ argument ++ "'"
  | badNumber key => "'" ++ key ++ "' is not a data group number between 1 and 16"
  | noPath number => "missing path for data group " ++ toString number

/-- Reads an argument. The first equals sign separates the key from the path. -/
def parse (argument : String) : Except Fault DataGroupArgument :=
  match Text.cutAt (· == '=') argument.toList with
  | none => .error (.noEqualsSign argument)
  | some (key, path) =>
      match DataGroup.number? (String.ofList key) with
      | none => .error (.badNumber (String.ofList key))
      | some number =>
          if path.isEmpty then .error (.noPath number)
          else .ok ⟨number, String.ofList path⟩

/-- The argument is understood. -/
def accepts (argument : String) : Bool := (parse argument).toBool

end DataGroupArgument

end Mrtd.Cli
