import Standoff.Tag.Basic
import Standoff.Span

/-! Segments: the entities that a tag column describes.

The column is read once from the front. An inside tag goes on with the entity
before it when that has the same type, and opens one of its own otherwise, since
corpora in use contain such tags. -/

namespace Standoff

/-- A run of tokens that is one entity, from the index `first` up to `stop`. -/
structure Segment where
  first : Nat
  stop : Nat
  type : Text
  implicitBegin : Bool
  deriving DecidableEq, Repr

/-! ## From tags to segments -/

/-- The entity to which the last token belongs. -/
structure OpenSegment where
  first : Nat
  type : Text
  implicitBegin : Bool
  deriving DecidableEq, Repr

namespace OpenSegment

def close (stop : Nat) (current : OpenSegment) : Segment :=
  ⟨current.first, stop, current.type, current.implicitBegin⟩

def ofTag (index : Nat) : Tag → Option OpenSegment
  | .outside => none
  | .begin type => some ⟨index, type, false⟩
  | .inside type => some ⟨index, type, true⟩

def continuedBy (current : Option OpenSegment) (tag : Tag) : Bool :=
  match current, tag with
  | some current, .inside type => current.type == type
  | _, _ => false

end OpenSegment

namespace Segment

/-- The segments of the tags from an index on, when `current` is open before it. -/
def ofTagsFrom (index : Nat) (current : Option OpenSegment) : List Tag → List Segment
  | [] => (current.map (OpenSegment.close index)).toList
  | tag :: rest =>
      if OpenSegment.continuedBy current tag then
        ofTagsFrom (index + 1) current rest
      else
        (current.map (OpenSegment.close index)).toList ++
          ofTagsFrom (index + 1) (OpenSegment.ofTag index tag) rest

def ofTags (tags : List Tag) : List Segment := ofTagsFrom 0 none tags

example : ofTags [.outside, .inside "LOC".toList, .inside "LOC".toList, .begin "LOC".toList] =
    [⟨1, 3, "LOC".toList, true⟩, ⟨3, 4, "LOC".toList, false⟩] := by decide

end Segment

/-! ## From a column to segments -/

structure DecodeError where
  tag : Option Text
  index : Int
  deriving DecidableEq, Repr

def DecodeError.message (error : DecodeError) : String :=
  "Unrecognized IOB tag [" ++ String.ofList (error.tag.getD "None".toList) ++
    "] at token " ++ toString error.index

namespace Tag

def read (index : Int) (cell : Option Text) : Except DecodeError Tag :=
  match parse? cell with
  | some tag => .ok tag
  | none => .error ⟨cell, index⟩

def readAllFrom (index : Int) : List (Option Text) → Except DecodeError (List Tag)
  | [] => .ok []
  | cell :: rest =>
      match read index cell with
      | .error error => .error error
      | .ok tag => (readAllFrom (index + 1) rest).map (tag :: ·)

def readAll (column : List (Option Text)) : Except DecodeError (List Tag) :=
  readAllFrom 0 column

end Tag

namespace Segment

def decode (column : List (Option Text)) : Except DecodeError (List Segment) :=
  (Tag.readAll column).map ofTags

/-! ## From segments to entities -/

inductive EntityError where
  | count (cells tokens : Nat)
  | tag (error : DecodeError)
  | span (error : SpanError)
  deriving DecidableEq, Repr

def EntityError.message : EntityError → String
  | .count cells tokens =>
      "Got " ++ toString cells ++ " tags for " ++ toString tokens ++ " tokens"
  | .tag error => error.message
  | .span error => error.message

def details (segment : Segment) : EntityDetails where
  source :=
    if segment.stop - segment.first = 1 then EntityDetails.single else EntityDetails.complex
  implicitBegin := segment.implicitBegin
  tokenRange := some (segment.first, segment.stop)

/-- The entity that a segment makes of its tokens. A segment without tokens
comes from another column. -/
def entity? (text : Text) (tokens : List Span) (segment : Segment) :
    Except EntityError Span :=
  match tokens[segment.first]?, tokens[segment.stop - 1]? with
  | some first, some last =>
      match Span.entity? text first.start last.stop segment.type segment.details with
      | .ok span => .ok span
      | .error error => .error (.span error)
  | _, _ => .error (.count segment.stop tokens.length)

def entities (text : Text) (tokens : List Span) (column : List (Option Text)) :
    Except EntityError (List Span) :=
  if tokens.length ≠ column.length then
    .error (.count column.length tokens.length)
  else
    match decode column with
    | .error error => .error (.tag error)
    | .ok segments => segments.mapM (entity? text tokens)

end Segment

end Standoff
