/-
Variables in the paths of the configuration.

* `Environment`: the places that the variables stand for;
* `PathVariable`: the variables;
* `expandVariables`: a path with values in place of its variables.
-/
import TweeStory.Text.Basic

namespace TweeStory

/-- The places that a run depends on, as far as they are known. -/
structure Environment where
  /-- The home directory of the user. -/
  home : Option Text
  /-- The directory that the program is run from. -/
  workingDirectory : Option Text
  /-- The directory that the program stands in. -/
  programDirectory : Option Text
  /-- The directory of the program's data. -/
  dataDirectory : Option Text
  /-- The directory of the user's configuration files. -/
  configDirectory : Option Text
deriving DecidableEq, Repr

/-- The variables that paths may hold. -/
inductive PathVariable where
  | home
  | workingDirectory
  | programDirectory
  | dataDirectory
deriving DecidableEq, Repr

namespace PathVariable

/-- The variable with a name. -/
def ofName? (name : Text) : Option PathVariable :=
  if name = "HOME".toList then some home
  else if name = "PWD".toList then some workingDirectory
  else if name = "TWEEFORGE_BIN_DIR".toList then some programDirectory
  else if name = "TWEEFORGE_DATA_DIR".toList then some dataDirectory
  else none

/-- The value of a variable, if it is known. -/
def value? (env : Environment) : PathVariable → Option Text
  | home => env.home
  | workingDirectory => env.workingDirectory
  | programDirectory => env.programDirectory
  | dataDirectory => env.dataDirectory

/-- What is said when the value of a variable is not known. -/
def missing : PathVariable → Text
  | home => "Failed to get HOME".toList
  | workingDirectory => "Failed to get PWD".toList
  | programDirectory => "Failed to get TWEEFORGE_BIN_DIR".toList
  | dataDirectory => "Failed to get TWEEFORGE_DATA_DIR".toList

end PathVariable

/-- Why the variables of a path have no values. -/
inductive VariableError where
  /-- A name is none of those of the variables. -/
  | unknown
  /-- The value of a variable is not known. -/
  | unavailable (v : PathVariable)
  /-- The values bring in variables again and again. -/
  | endless
deriving DecidableEq, Repr

/-- The words of the error. -/
def VariableError.message : VariableError → Text
  | unknown => "Arbitrary environment variables are not currently supported".toList
  | unavailable v => v.missing
  | endless => "Path variables keep referring to each other".toList

/-- The value of the variable that a name after a dollar sign is of. -/
def variableValue (env : Environment) (name : Text) : Except VariableError Text :=
  match PathVariable.ofName? name with
  | none => .error .unknown
  | some v =>
    match v.value? env with
    | some value => .ok value
    | none => .error (.unavailable v)

/-- The name after the first dollar sign of a path, up to the next slash. -/
def firstVariable? (path : Text) : Option Text :=
  (Text.cut? ['$'] path).map fun (_, rest) => rest.takeWhile (· ≠ '/')

/-- The path after at most `n` rounds.  A round replaces the text of the first
variable by its value, wherever that text stands, and what the values bring in is
looked at too. -/
def expandRounds (env : Environment) : (n : Nat) → Text → Except VariableError Text
  | 0, path => if path.contains '$' then .error .endless else .ok path
  | n + 1, path =>
    match firstVariable? path with
    | none => .ok path
    | some name =>
      match variableValue env name with
      | .error e => .error e
      | .ok value => expandRounds env n (path.replaceAll ('$' :: name) value)

/-- The number of rounds after which a path is given up. -/
def roundLimit (path : Text) : Nat :=
  path.length + 64

/-- The path with values in place of its variables. -/
def expandVariables (env : Environment) (path : Text) : Except VariableError Text :=
  expandRounds env (roundLimit path) path

end TweeStory
