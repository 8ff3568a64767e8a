import Standoff.Sink
import Standoff.Tag.Segment

/-! Notices: what readers, annotators and tools report besides their results. -/

namespace Standoff

inductive Level where
  | debug
  | info
  | warning
  | error
  deriving DecidableEq, Repr

def Level.name : Level → String
  | .debug => "DEBUG"
  | .info => "INFO"
  | .warning => "WARNING"
  | .error => "ERROR"

inductive Notice where
  | corpusRead (source : Text) (sentences tokens : Nat)
  /-- A column of one sentence holds a cell that is no tag. -/
  | entitiesSkipped (source : Text) (sentence : Nat) (error : DecodeError)
  | annotationsRead (source : Text) (count : Nat)
  | segmented (sentences tokens : Nat)
  | loadingModel (location : Text)
  | started (program : Text) (process : Nat)
  | stopped (program : Text) (process : Nat)
  | pipeNotClosed (program : Text) (fault : WriteFault)
  | sentBeforeFailure (sentence : Option Text)
  | receivedBeforeFailure (line : Option Text)
  | tagsUsed (model : Text) (tags : List Text)
  deriving DecidableEq, Repr

namespace Notice

def level : Notice → Level
  | .corpusRead .. | .annotationsRead .. | .segmented .. | .loadingModel _
  | .started .. | .stopped .. | .tagsUsed .. => .info
  | .entitiesSkipped .. => .warning
  | .pipeNotClosed .. => .debug
  | .sentBeforeFailure _ | .receivedBeforeFailure _ => .error

private def shown (text : Text) : String := String.ofList text

private def shownOptional (text : Option Text) : String := shown (text.getD "None".toList)

def message : Notice → String
  | .corpusRead source sentences tokens =>
      shown source ++ ": " ++ toString sentences ++ " sentences, " ++ toString tokens ++
        " tokens read"
  | .entitiesSkipped source sentence error =>
      shown source ++ ": skipping named entities of sentence " ++ toString sentence ++ ": " ++
        error.message
  | .annotationsRead source count =>
      shown source ++ ": " ++ toString count ++ " text annotations read"
  | .segmented sentences tokens =>
      toString sentences ++ " sentences and " ++ toString tokens ++ " tokens segmented"
  | .loadingModel location => "loading model " ++ shown location
  | .started program process => "started " ++ shown program ++ " (pid " ++ toString process ++ ")"
  | .stopped program process => "stopped " ++ shown program ++ " (pid " ++ toString process ++ ")"
  | .pipeNotClosed program fault =>
      "error closing pipe to " ++ shown program ++ ": " ++ fault.message
  | .sentBeforeFailure sentence => "Sent before error: [" ++ shownOptional sentence ++ "]"
  | .receivedBeforeFailure line =>
      "Last response before error: [" ++ shownOptional line ++ "]"
  | .tagsUsed model tags =>
      shown model ++ " tags used: " ++ shown ([' '].intercalate tags)

def line (notice : Notice) : String := notice.level.name ++ " " ++ notice.message

end Notice

end Standoff
