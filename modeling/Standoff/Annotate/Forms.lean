import Standoff.Annotate.Failure

/-! Segmentation by a model that reports forms without offsets.

The forms are looked up in the text one after the other. Only a zone of the text
may be given to the model; the spans then count from the start of the text all
the same. -/

namespace Standoff

namespace Forms

/-- What a tokenizer reports of a text: the forms of each sentence, and the
trouble that kept it from going on. -/
structure Answer where
  sentences : List (List Text)
  trouble : Option Text := none
  deriving DecidableEq, Repr

inductive Call where
  | load (location : Text)
  | text (given : Text)
  deriving DecidableEq, Repr

def Call.describe : Call → String
  | .load location => "load " ++ String.ofList location
  | .text given => "text " ++ String.ofList given

/-! ## Alignment -/

abbrev Sentence := List Span × Span

/-- Find the forms of one sentence from the aligner's cursor on. Offsets in the
aligner's text are `offset` less than offsets in the document. -/
def alignSentence (text : Text) (offset : Int) (aligner : Aligner) (first : Text)
    (others : List Text) : Except Failure (Sentence × Aligner) :=
  match aligner.locate first, aligner.alignAll (first :: others) with
  | .error error, _ => .error (.alignment error)
  | .ok _, (.error error, _) => .error (.alignment error)
  | .ok start, (.ok extents, aligner) => do
      let tokens ← (extents.mapM fun extent =>
        Span.token? text (extent.1 + offset) (extent.2 + offset)).mapError .span
      let sentence ← (Span.sentence? text (start + offset) (aligner.cursor + offset)).mapError
        .span
      return ((tokens, sentence), aligner)

/-- Find the forms of all sentences. A sentence without forms leaves no trace. -/
def alignSentences (text : Text) (offset : Int) (aligner : Aligner) :
    List (List Text) → Except Failure (List Sentence)
  | [] => .ok []
  | [] :: rest => alignSentences text offset aligner rest
  | (first :: others) :: rest =>
      match alignSentence text offset aligner first others with
      | .error failure => .error failure
      | .ok (sentence, aligner) =>
          (alignSentences text offset aligner rest).map (sentence :: ·)

/-! ## The annotator -/

/-- How a document is segmented: with a model that is given, or with one that is
chosen and loaded, in the zone between two signed positions. -/
structure Segmenter (μ : Type) where
  given : Option μ := none
  language : Option Text := none
  variant : Option Text := none
  location : Option Text := none
  zoneStart : Int := 0
  zoneStop : Option Int := none

def locationTemplate : Text :=
  "${model_path}/udpipe/segmenter-${language}-${variant}.udpipe".toList

structure Surroundings (μ : Type) where
  files : FileTree
  directory : Text
  load : Text → Option μ
  tokenize : μ → Text → Option Answer

structure State (μ : Type) where
  cache : ModelCache μ := []
  calls : List Call := []
  notices : List Notice := []

namespace Segmenter

variable {μ : Type}

def choice (segmenter : Segmenter μ) : ModelChoice where
  template := some locationTemplate
  language := segmenter.language
  variant := segmenter.variant
  location := segmenter.location
  defaultVariant := some "ud".toList

def model (segmenter : Segmenter μ) (surroundings : Surroundings μ) (document : Document)
    (state : State μ) : Except Failure μ × State μ :=
  match segmenter.given with
  | some model => (.ok model, state)
  | none =>
      match segmenter.choice.resolve document.language surroundings.directory with
      | .error error => (.error (.location error), state)
      | .ok resolved =>
          let fetch := ModelCache.fetch state.cache resolved.location
            (surroundings.files.present resolved.location)
            (.ok (surroundings.load resolved.location))
          let state : State μ := {
            cache := fetch.cache
            calls := state.calls ++ fetch.loads.map .load
            notices := state.notices ++ fetch.loads.map .loadingModel }
          (fetch.result.mapError .model, state)

def zone (segmenter : Segmenter μ) (text : Text) : Text :=
  Text.slice text segmenter.zoneStart (segmenter.zoneStop.getD text.length)

/-- The sentences that an answer describes in a zone. The tokenizer's own trouble
comes out only when all that it reported before has been found. -/
def align (segmenter : Segmenter μ) (text : Text) (answer : Answer) :
    Except Failure (List Sentence) := do
  let sentences ← alignSentences text segmenter.zoneStart { text := segmenter.zone text }
    answer.sentences
  match answer.trouble with
  | some trouble => .error (.tokenizer trouble)
  | none => return sentences

def annotator (segmenter : Segmenter μ) (surroundings : Surroundings μ) :
    Annotator (State μ) Failure :=
  fun document state =>
    match segmenter.model surroundings document state with
    | (.error failure, state) => ⟨.error failure, document, state⟩
    | (.ok model, state) =>
        let zone := segmenter.zone document.text
        match surroundings.tokenize model zone with
        | none => ⟨.error .noTokenizer, document, state⟩
        | some answer =>
            let state := { state with calls := state.calls ++ [.text zone] }
            match segmenter.align document.text answer with
            | .error failure => ⟨.error failure, document, state⟩
            | .ok sentences =>
                let tokens := sentences.flatMap (·.1)
                let notice : Notice := .segmented sentences.length tokens.length
                ⟨.ok (some [("tokens", tokens), ("sentences", sentences.map (·.2))]),
                  document, { state with notices := state.notices ++ [notice] }⟩

end Segmenter

end Forms

end Standoff
