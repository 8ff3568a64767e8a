import Standoff.FileTree
import Standoff.Proofs.LineStream

/-! Texts that are stored in a file are read as they were written. -/

namespace Standoff

namespace FileTree

/-- A file holds a text in the encoding of this name, one of the three of `Encoding`. -/
def Stores (tree : FileTree) (path name : Text) (text : Text) : Prop :=
  ∃ encoding bytes, Encoding.named name = .ok encoding ∧ encoding.encode text = .ok bytes ∧
    tree.content path = .ok bytes

variable {tree : FileTree} {path name text : Text}

theorem Stores.wholeText (stores : tree.Stores path name text) :
    tree.wholeText path name = .ok text := by
  rcases stores with ⟨encoding, bytes, named, encoded, content⟩
  simp only [FileTree.wholeText, openEncoded, named, content, Encoding.decodeAll_encode encoded]

/-- The lines of a stored text are read as they were written, with other line ends. -/
theorem Stores.lines (stores : tree.Stores path name text) :
    tree.lines path name = .ok (Text.lines (Text.unifyLineEnds text), none) := by
  rcases stores with ⟨encoding, bytes, named, encoded, content⟩
  simp only [FileTree.lines, openEncoded, named, content, Except.map,
    LineStream.untilFault_ofStored encoded]

end FileTree

end Standoff
