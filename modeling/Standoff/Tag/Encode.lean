import Standoff.Tag.Segment

/-! Writing entities back into a tag column.

Every entity has to begin where a token begins and to end where a token ends,
and no token can belong to two entities. The tags do not depend on the order in
which the entities are written. -/

namespace Standoff

inductive EncodeError where
  | offBoundary (entity : Span)
  | overlapping (entity : Span)
  | unlabelled (entity : Span)

def EncodeError.message (text : Text) : EncodeError → String
  | .offBoundary entity =>
      "Entity " ++ String.ofList (entity.describe text) ++
        " does not fall on token boundaries"
  | .overlapping entity =>
      "Entity " ++ String.ofList (entity.describe text) ++ " overlaps another entity"
  | .unlabelled entity => "Entity " ++ String.ofList (entity.describe text) ++ " has no label"

namespace Tag

/-- Whether the tokens in an entity reach from its start to its end. -/
def onBoundaries (tokens : List Span) (entity : Span) : Bool :=
  let covered := tokens.filter entity.contains
  match covered.head?, covered.getLast? with
  | some first, some last => first.start == entity.start && last.stop == entity.stop
  | _, _ => false

/-- Write the tags of an entity over the tokens that it contains. `begun` says
whether an earlier token has its first tag. -/
def mark (entity : Span) (begun : Bool) : List (Span × Tag) → Except EncodeError (List Tag)
  | [] => .ok []
  | (token, tag) :: rest =>
      if entity.contains token then
        match tag, entity.label with
        | .begin _, _ | .inside _, _ => .error (.overlapping entity)
        | .outside, none => .error (.unlabelled entity)
        | .outside, some type =>
            (mark entity true rest).map ((if begun then .inside type else .begin type) :: ·)
      else
        (mark entity begun rest).map (tag :: ·)

def encodeOne (tokens : List Span) (tags : List Tag) (entity : Span) :
    Except EncodeError (List Tag) :=
  if onBoundaries tokens entity then
    mark entity false (tokens.zip tags)
  else
    .error (.offBoundary entity)

def encode (tokens entities : List Span) : Except EncodeError (List Tag) :=
  entities.foldlM (encodeOne tokens) (tokens.map fun _ => .outside)

end Tag

end Standoff
