import Standoff.Text.Search

/-! Recovering the offsets of forms in a text.

An aligner reads a text from left to right. Its cursor never moves back, so
that a form which occurs several times is matched to one occurrence after the
other. -/

namespace Standoff

structure AlignmentError where
  form : Text
  position : Int
  context : Text
  deriving DecidableEq, Repr

namespace AlignmentError

def contextSize : Nat := 40

def of (form : Text) (position : Int) (text : Text) : AlignmentError where
  form
  position
  context := Text.slice text position (position + contextSize)

def message (error : AlignmentError) : String :=
  "Token [" ++ String.ofList error.form ++ "] not found at or after offset " ++
    toString error.position ++ " in text [" ++ String.ofList error.context ++ "]"

end AlignmentError

/-- A text and the position from which forms are searched. The first position
may be negative or beyond the text. -/
structure Aligner where
  text : Text
  cursor : Int := 0
  deriving DecidableEq, Repr

namespace Aligner

/-- The offset of the next occurrence of a form. The empty form has none. -/
def locate (aligner : Aligner) (form : Text) : Except AlignmentError Nat :=
  if form = [] then
    .error (.of form aligner.cursor aligner.text)
  else
    match Text.firstOccurrenceFrom form aligner.text aligner.cursor with
    | some offset => .ok offset
    | none => .error (.of form aligner.cursor aligner.text)

def align (aligner : Aligner) (form : Text) :
    Except AlignmentError (Nat × Nat) × Aligner :=
  match aligner.locate form with
  | .error error => (.error error, aligner)
  | .ok start =>
      let stop := start + form.length
      (.ok (start, stop), { aligner with cursor := stop })

/-- The extents of forms that occur one after the other. Where one is missing,
the cursor stays behind the last that was found. -/
def alignAll (aligner : Aligner) :
    List Text → Except AlignmentError (List (Nat × Nat)) × Aligner
  | [] => (.ok [], aligner)
  | form :: rest =>
      match aligner.align form with
      | (.error error, aligner) => (.error error, aligner)
      | (.ok extent, aligner) =>
          let (extents, aligner) := alignAll aligner rest
          (extents.map (extent :: ·), aligner)

example :
    (alignAll { text := "the cat saw the dog".toList }
      ["the".toList, "cat".toList, "the".toList]) =
    (.ok [(0, 3), (4, 7), (12, 15)],
      { text := "the cat saw the dog".toList, cursor := 15 }) := by rfl

end Aligner

end Standoff
