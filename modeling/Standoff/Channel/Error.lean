import Standoff.LineStream
import Standoff.Sink

/-! What can go wrong between a program and the tool that it asks for tags. -/

namespace Standoff

inductive ProtocolError where
  | unsendable (form : Text)
  | unwritable (fault : WriteFault)
  | unreadable (fault : ReadFault)
  | endedAmongTags (received : Nat) (expected : Int)
  | tooFewTags (received : Nat) (expected : Int)
  | missingField (line : Text)
  | endedBeforeBlank
  | tooManyTags (expected : Int) (line : Text)
  deriving DecidableEq, Repr

def ProtocolError.message : ProtocolError → String
  | .unsendable form =>
      "Token [" ++ String.ofList form ++ "] can not be sent on a single line"
  | .unwritable fault => "Unable to write to the tool: " ++ fault.message
  | .unreadable fault => "Unable to read from the tool: " ++ fault.message
  | .endedAmongTags received expected =>
      "Output ended after " ++ toString received ++ " of " ++ toString expected ++ " tags"
  | .tooFewTags received expected =>
      "Got " ++ toString received ++ " tag lines for " ++ toString expected ++ " tokens"
  | .missingField line => "Missing tag field in line [" ++ String.ofList line ++ "]"
  | .endedBeforeBlank => "Output ended before the end of the sentence"
  | .tooManyTags expected line =>
      "Got more than " ++ toString expected ++ " tag lines, next line is [" ++
        String.ofList line ++ "]"

inductive ChannelError where
  | protocol (error : ProtocolError)
  /-- A field is counted from the end of a line that has too few. -/
  | fieldOutOfRange
  | emptySeparator
  | closed
  deriving DecidableEq, Repr

def ChannelError.message : ChannelError → String
  | .protocol error => error.message
  | .fieldOutOfRange => "The line has too few fields"
  | .emptySeparator => "empty separator"
  | .closed => WriteFault.closed.message

end Standoff
