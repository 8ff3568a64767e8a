import Standoff.Channel.Error

/-! Responses: one line to a token, with the tag in one of its fields, and a
blank line after the last. -/

namespace Standoff

structure ResponseReader where
  stream : LineStream
  /-- What stands between the fields of a line. It is any white space if nothing is
  given. -/
  separator : Option Text := some ['\t']
  /-- The field that holds the tag, counted from the end when negative. -/
  field : Int := 1
  lastReceived : Option Text := none

def fieldsOfLine (separator : Option Text) (line : Text) : Except ChannelError (List Text) :=
  match separator with
  | none => .ok (Text.words line)
  | some [] => .error .emptySeparator
  | some separator => .ok (Text.pieces separator line)

def tagOfLine (separator : Option Text) (field : Int) (line : Text) :
    Except ChannelError Text :=
  match fieldsOfLine separator line with
  | .error error => .error error
  | .ok fields =>
    let found :=
      if 0 ≤ field then fields[field.toNat]?
      else if 0 ≤ fields.length + field then fields[(fields.length + field).toNat]?
      else none
    match found with
    | some content =>
        if Text.isBlank content then .error (.protocol (.missingField line))
        else .ok (Text.trim content)
    | none =>
        if 0 ≤ field then .error (.protocol (.missingField line)) else .error .fieldOutOfRange

example : tagOfLine (some ['\t']) (-1) "Hi\tgreeting\t UH ".toList = .ok "UH".toList ∧
    tagOfLine none 1 " Hi  UH ".toList = .ok "UH".toList := by
  constructor <;> rfl

namespace ResponseReader

def readLine (reader : ResponseReader) :
    Except ChannelError (Option Text) × ResponseReader :=
  if reader.stream.closed then
    (.error .closed, reader)
  else
    match reader.stream.next with
    | (.error fault, stream) =>
        (.error (.protocol (.unreadable fault)), { reader with stream })
    | (.ok none, stream) => (.ok none, { reader with stream })
    | (.ok (some written), stream) =>
        let line := Text.chomp written
        let lastReceived := if Text.isBlank line then reader.lastReceived else some line
        (.ok (some line), { reader with stream, lastReceived })

/-- Read the tags of `missing` more tokens, when `received` of `expected` tags
have been read. -/
def receiveTags (expected : Int) (received : Nat) : (missing : Nat) → ResponseReader →
    Except ChannelError (List Text) × ResponseReader
  | 0, reader => (.ok [], reader)
  | missing + 1, reader =>
      match reader.readLine with
      | (.error error, reader) => (.error error, reader)
      | (.ok none, reader) =>
          (.error (.protocol (.endedAmongTags received expected)), reader)
      | (.ok (some line), reader) =>
          if Text.isBlank line then
            (.error (.protocol (.tooFewTags received expected)), reader)
          else
            match tagOfLine reader.separator reader.field line with
            | .error error => (.error error, reader)
            | .ok tag =>
                let (tags, reader) := receiveTags expected (received + 1) missing reader
                (tags.map (tag :: ·), reader)

def receive (reader : ResponseReader) (expected : Int) :
    Except ChannelError (List Text) × ResponseReader :=
  match receiveTags expected 0 expected.toNat reader with
  | (.error error, reader) => (.error error, reader)
  | (.ok tags, reader) =>
      match reader.readLine with
      | (.error error, reader) => (.error error, reader)
      | (.ok none, reader) => (.error (.protocol .endedBeforeBlank), reader)
      | (.ok (some line), reader) =>
          if Text.isBlank line then (.ok tags, reader)
          else (.error (.protocol (.tooManyTags expected line)), reader)

example :
    (receive { stream := LineStream.ofText "Hi\tUH\nJoe\tNNP\n\n".toList } 2).1 =
      .ok ["UH".toList, "NNP".toList] := by rfl

end ResponseReader

end Standoff
