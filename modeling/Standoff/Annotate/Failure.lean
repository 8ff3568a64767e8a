import Standoff.Aligner
import Standoff.Channel.Tool
import Standoff.Document
import Standoff.Resource.Categories
import Standoff.Resource.Executable
import Standoff.Resource.Location
import Standoff.Resource.ModelCache

/-! Why an annotator fails. -/

namespace Standoff

inductive Failure where
  | span (error : SpanError)
  | alignment (error : AlignmentError)
  | tiers (available : List String)
  | badRequest
  | pipeline (report : Text)
  | location (error : LocationError)
  | model (error : ModelError Empty)
  | noTokenizer
  | tokenizer (report : Text)
  | properties (error : Properties.LoadError)
  | noTaggerModel (location : Text)
  | noEncoding
  | executable (error : ExecutableError)
  | start (error : StartError)
  | channel (error : ChannelError)

namespace Failure

def ofRequire : RequireError Failure → Failure
  | .badRequest => .badRequest
  | .missing available => .tiers available
  | .annotator failure => failure

def message : Failure → String
  | .span error => error.message
  | .alignment error => error.message
  | .tiers available => missingTiersMessage available
  | .badRequest => "No tiers named, or an option without meaning"
  | .pipeline report => String.ofList report
  | .location error => error.message
  | .model error => error.message fun failure => nomatch failure
  | .noTokenizer => "The UDPipe model does not contain a tokenizer"
  | .tokenizer report => "UDPipe tokenizer failed: " ++ String.ofList report
  | .properties error => error.message
  | .noTaggerModel path => "There is no HunPos model at: " ++ String.ofList path
  | .noEncoding => "Model should contain encoding metadata"
  | .executable error => error.message
  | .start error => error.message
  | .channel error => error.message

end Failure

end Standoff
