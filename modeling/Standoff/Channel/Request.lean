import Standoff.Channel.Error

/-! Requests: a sentence is sent as one form to a line and a blank line after
the last. -/

namespace Standoff

def Sendable (form : Text) : Prop := form ≠ [] ∧ '\n' ∉ form ∧ '\r' ∉ form

instance (form : Text) : Decidable (Sendable form) := by
  unfold Sendable
  infer_instance

def requestText (forms : List Text) : Text :=
  forms.flatMap (fun form => form ++ ['\n']) ++ ['\n']

example : requestText ["Hi".toList, "Joe".toList] = "Hi\nJoe\n\n".toList := by decide

/-- A sink for requests, and the last sentence whose forms could all be sent. -/
structure RequestWriter (α : Type) where
  sink : Sink α
  lastSent : Option Text := none

namespace RequestWriter

variable {α : Type}

/-- Send one sentence. The forms are examined before anything is written. -/
def send (writer : RequestWriter α) (forms : List Text) :
    Except ChannelError Unit × RequestWriter α :=
  match forms.find? fun form => ¬ Sendable form with
  | some form => (.error (.protocol (.unsendable form)), writer)
  | none =>
      let (result, sink) := writer.sink.put (requestText forms)
      let writer := { sink, lastSent := some ([' '].intercalate forms) }
      match result with
      | .ok () => (.ok (), writer)
      | .error .closed => (.error .closed, writer)
      | .error fault => (.error (.protocol (.unwritable fault)), writer)

end RequestWriter

end Standoff
