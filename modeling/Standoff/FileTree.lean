import Standoff.Dictionary
import Standoff.LineStream
import Standoff.Path

/-! The files that an annotator finds in its working directory.

Paths are relative to that directory and may pass through directories only. What
lies outside of the directory is not known, except that the directories on the
way there exist. -/

namespace Standoff

/-! ## Trees -/

inductive FileEntry where
  | file (content : Bytes) (executable : Bool)
  | directory
  deriving DecidableEq, Repr

inductive FileError where
  | missing
  | isDirectory
  | notDirectory
  | exists
  | nameTooLong
  | nullCharacter
  deriving DecidableEq, Repr

def FileError.message : FileError → String
  | .missing => "No such file or directory"
  | .isDirectory => "Is a directory"
  | .notDirectory => "Not a directory"
  | .exists => "File exists"
  | .nameTooLong => "File name too long"
  | .nullCharacter => "embedded null byte"

/-- The entries below the working directory by the names on the way to them. -/
abbrev FileTree := Dictionary (List Text) FileEntry

namespace FileTree

def entry? (tree : FileTree) (way : List Text) : Option FileEntry :=
  if way = [] then some .directory else tree.get? way

/-! ## Following paths -/

/-- Where a path leads: to the end of a way that starts in the working directory,
or to a directory outside. -/
inductive Spot where
  | inside (way : List Text)
  | outside
  deriving DecidableEq, Repr

def at? (tree : FileTree) : Spot → Option FileEntry
  | .inside way => tree.entry? way
  | .outside => some .directory

def byteCount (text : Text) : Nat :=
  text.foldl (fun count character => count + character.utf8Size) 0

def nameLimit : Nat := 255

def pathLimit : Nat := 4096

/-- The spot to which a name leads from another spot, which must be a directory.
There need not be an entry. -/
def step (tree : FileTree) (spot : Spot) (name : Text) : Except FileError Spot :=
  match tree.at? spot with
  | none => .error .missing
  | some (.file _ _) => .error .notDirectory
  | some .directory =>
      if name = [] ∨ name = ['.'] then .ok spot
      else if nameLimit < byteCount name then .error .nameTooLong
      else
        match spot with
        | .inside way =>
            if name ≠ ['.', '.'] then .ok (.inside (way ++ [name]))
            else if way = [] then .ok .outside
            else .ok (.inside way.dropLast)
        | .outside => if name = ['.', '.'] then .ok .outside else .error .missing

/-- The names of a path, and the spot from which they lead on. -/
def route (path : Text) : Except FileError (Spot × List Text) :=
  if '\x00' ∈ path then .error .nullCharacter
  else if path = [] then .error .missing
  else if pathLimit ≤ byteCount path then .error .nameTooLong
  else .ok (if path.head? = some '/' then .outside else .inside [], Text.fields '/' path)

def follow (tree : FileTree) (path : Text) : Except FileError Spot := do
  let (spot, names) ← route path
  names.foldlM tree.step spot

def look (tree : FileTree) (path : Text) : Except FileError FileEntry :=
  match tree.follow path with
  | .error error => .error error
  | .ok spot =>
      match tree.at? spot with
      | some entry => .ok entry
      | none => .error .missing

def present (tree : FileTree) (path : Text) : Bool :=
  match tree.look path with
  | .ok _ => true
  | .error _ => false

def runnable (tree : FileTree) (path : Text) : Bool :=
  match tree.look path with
  | .ok (.file _ executable) => executable
  | _ => false

def content (tree : FileTree) (path : Text) : Except FileError Bytes :=
  match tree.look path with
  | .ok (.file content _) => .ok content
  | .ok .directory => .error .isDirectory
  | .error error => .error error

example :
    let tree : FileTree :=
      [(["d".toList], .directory), (["d".toList, "a".toList], .file [0x61] false)]
    tree.look "d//./a".toList = .ok (.file [0x61] false) ∧
    tree.look "d/a/b".toList = .error .notDirectory ∧
    tree.look "d/../d".toList = .ok .directory ∧
    tree.look "..".toList = .ok .directory ∧
    tree.look "a\x00".toList = .error .nullCharacter := by
  refine ⟨?_, ?_, ?_, ?_, ?_⟩ <;> rfl

/-! ## Changing the tree -/

def putAt (tree : FileTree) (entry : FileEntry) : Spot → FileTree
  | .inside way => tree.set way entry
  | .outside => tree

/-- Follow names and make the directories that are missing. Those that have been
made stay there when one cannot be made. -/
def makeWay (tree : FileTree) (spot : Spot) :
    List Text → Except FileError Unit × FileTree
  | [] =>
      match tree.at? spot with
      | some (.file _ _) => (.error .exists, tree)
      | _ => (.ok (), tree)
  | name :: rest =>
      match tree.step spot name with
      | .error error => (.error error, tree)
      | .ok next =>
          match tree.at? next with
          | none => makeWay (tree.putAt .directory next) next rest
          | some _ => makeWay tree next rest

def makeDirectory (tree : FileTree) (path : Text) : Except FileError Unit × FileTree :=
  match route path with
  | .error error => (.error error, tree)
  | .ok (spot, names) => tree.makeWay spot names

def writeInPlace (tree : FileTree) (path : Text) (content : Bytes) (executable : Bool) :
    Except FileError Unit × FileTree :=
  match tree.follow path with
  | .error error => (.error error, tree)
  | .ok spot =>
      match tree.at? spot with
      | some .directory => (.error .isDirectory, tree)
      | _ => (.ok (), tree.putAt (.file content executable) spot)

/-- Write a file, and make the directories on the way to it. They stay there when
the file cannot be written. -/
def write (tree : FileTree) (path : Text) (content : Bytes) (executable : Bool := false) :
    Except FileError Unit × FileTree :=
  match Path.directory path with
  | [] => tree.writeInPlace path content executable
  | directory =>
      match tree.makeDirectory directory with
      | (.error error, tree) => (.error error, tree)
      | (.ok _, tree) => tree.writeInPlace path content executable

def remove (tree : FileTree) (path : Text) : Except FileError Unit × FileTree :=
  match tree.look path, tree.follow path with
  | .error error, _ => (.error error, tree)
  | .ok (.file _ _), .ok (.inside way) => (.ok (), tree.erase way)
  | .ok _, _ => (.error .isDirectory, tree)

example :
    let tree := (write [] "d/e".toList [0x61]).2
    tree.content "d/e".toList = .ok [0x61] ∧
    (tree.write "d".toList []).1 = .error .isDirectory ∧
    (tree.write "d/e/f".toList []).1 = .error .exists ∧
    (tree.remove "d".toList).1 = .error .isDirectory ∧
    tree.remove "d/e".toList = (.ok (), [(["d".toList], .directory)]) := by
  refine ⟨?_, ?_, ?_, ?_, ?_⟩ <;> rfl

example : (write [] "d/".toList []) = (.error .isDirectory, [(["d".toList], .directory)]) := by
  rfl

/-! ## Reading texts -/

inductive OpenError where
  | file (error : FileError)
  | encoding (error : Encoding.NameError)
  | fault (fault : ReadFault)
  deriving DecidableEq, Repr

def OpenError.message : OpenError → String
  | .file error => error.message
  | .encoding error => error.message
  | .fault cause => cause.message

/-- The bytes of a file and the encoding of the asked name. A name that cannot be
one comes out first, then that there is no file, then that nobody knows the
encoding. -/
def openEncoded (tree : FileTree) (path encoding : Text) :
    Except OpenError (Encoding × Bytes) :=
  match Encoding.named encoding, tree.content path with
  | .error .nullCharacter, _ => .error (.encoding .nullCharacter)
  | _, .error error => .error (.file error)
  | .error error, .ok _ => .error (.encoding error)
  | .ok encoding, .ok content => .ok (encoding, content)

def lines (tree : FileTree) (path encoding : Text) :
    Except OpenError (List Text × Option ReadFault) :=
  (tree.openEncoded path encoding).map fun opened =>
    (LineStream.ofStored opened.1 opened.2).untilFault

def wholeText (tree : FileTree) (path encoding : Text) : Except OpenError Text :=
  match tree.openEncoded path encoding with
  | .error error => .error error
  | .ok (encoding, content) =>
      match encoding.decodeAll content with
      | .ok text => .ok text
      | .error fault => .error (.fault (.undecodable fault))

end FileTree

end Standoff
