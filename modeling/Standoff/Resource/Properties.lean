import Standoff.FileTree

/-! Property files: one key and its value to a line.

An equals sign stands between the two, and white space around either is not
part of it. Blank lines and lines that begin with a number sign say nothing. A
key that comes again gets the later value. -/

namespace Standoff

abbrev Properties := Dictionary Text Text

structure PropertyError where
  number : Nat
  source : Text
  line : Text
  deriving DecidableEq, Repr

def PropertyError.message (error : PropertyError) : String :=
  "Line " ++ toString error.number ++ " of " ++ String.ofList error.source ++
    " is not a key=value pair: [" ++ String.ofList error.line ++ "]"

namespace Properties

def readLine (source : Text) (number : Nat) (written : Text) :
    Except PropertyError (Option (Text × Text)) :=
  let line := Text.trim written
  if line = [] ∨ line.head? = some '#' then .ok none
  else
    match Text.cut '=' line with
    | none => .error ⟨number, source, line⟩
    | some (key, value) => .ok (some (Text.trim key, Text.trim value))

def readLinesFrom (source : Text) (number : Nat) (properties : Properties) :
    List Text → Except PropertyError Properties
  | [] => .ok properties
  | written :: rest =>
      match readLine source number written with
      | .error error => .error error
      | .ok none => readLinesFrom source (number + 1) properties rest
      | .ok (some (key, value)) =>
          readLinesFrom source (number + 1) (properties.set key value) rest

def readLines (source : Text) (lines : List Text) : Except PropertyError Properties :=
  readLinesFrom source 1 [] lines

example : readLines [] ["# a=b\n".toList, " a = b=c \n".toList] =
    .ok [("a".toList, "b=c".toList)] := by rfl

inductive LoadError where
  | file (error : FileTree.OpenError)
  | line (error : PropertyError)
  deriving DecidableEq, Repr

def LoadError.message : LoadError → String
  | .file error => error.message
  | .line error => error.message

/-- The properties in a file. A line that is no property comes out before a
fault that is met later in the file. -/
def load (tree : FileTree) (path : Text) (encoding : Text := Encoding.standard) :
    Except LoadError Properties :=
  match tree.lines path encoding with
  | .error error => .error (.file error)
  | .ok (lines, fault) =>
      match readLines path lines, fault with
      | .error error, _ => .error (.line error)
      | .ok _, some fault => .error (.file (.fault fault))
      | .ok properties, none => .ok properties

def besideModel (location : Text) : Text := location ++ ".properties".toList

/-- The properties kept beside a model: none if there is no such file. -/
def ofModel (tree : FileTree) (location : Text) : Except LoadError Properties :=
  if tree.present (besideModel location) then load tree (besideModel location) else .ok []

end Properties

end Standoff
