import Standoff.FileTree
import Standoff.Path

/-! Finding programs: where a variable of the environment says, or on the search
path. -/

namespace Standoff

/-! ## Environments -/

abbrev Environment := Dictionary Text Text

inductive VariableError where
  | nullCharacter
  | illegalName
  | emptyName
  deriving DecidableEq, Repr

def VariableError.message : VariableError → String
  | .nullCharacter => "embedded null byte"
  | .illegalName => "illegal environment variable name"
  | .emptyName => "[Errno 22] Invalid argument"

def Environment.ofVariables (settings : Dictionary Text Text) :
    Except VariableError Environment :=
  settings.foldlM (fun environment entry => do
    if '\x00' ∈ entry.1 ++ entry.2 then throw .nullCharacter
    if '=' ∈ entry.1 then throw .illegalName
    if entry.1 = [] then throw .emptyName
    return Dictionary.set entry.1 entry.2 environment) []

/-! ## Programs -/

structure ExecutableError where
  name : Text
  setBy : Option Text
  deriving DecidableEq, Repr

def ExecutableError.message (error : ExecutableError) : String :=
  "Could not find the " ++ String.ofList error.name ++
    " executable. Add it to the PATH or set " ++
    (match error.setBy with
      | none | some [] => "its location"
      | some name => String.ofList name) ++ "."

namespace Executable

def setting (environment : Environment) (name : Text) : Option Text :=
  (environment.get? name).filter (· ≠ [])

/-- The first directory of the search path with a program of a name. A name that
is a path already is not searched. -/
def search (tree : FileTree) (environment : Environment) (name : Text) : Option Text :=
  if '/' ∈ name then
    if tree.runnable name then some name else none
  else
    match setting environment "PATH".toList with
    | none => none
    | some path =>
        ((Text.fields ':' path).map fun directory => Path.join directory name).find?
          tree.runnable

/-- The path of a program: what the variable names if it is set, whatever it
names, else what the search finds. -/
def find (tree : FileTree) (environment : Environment) (name : Text)
    (setBy : Option Text) : Except ExecutableError Text :=
  let named := setBy.bind (setting environment)
  match named.or (search tree environment name) with
  | some path =>
      if tree.present path then .ok path else .error ⟨name, setBy⟩
  | none => .error ⟨name, setBy⟩

end Executable

end Standoff
