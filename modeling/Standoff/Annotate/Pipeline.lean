import Standoff.Annotate.Failure

/-! Segmentation by a pipeline that knows where its tokens are.

The pipeline for a language is made when it is first needed and kept. It finds
tokens with their offsets, sentence by sentence; those that begin with white
space are not tokens of the document. -/

namespace Standoff

namespace Pipeline

structure Token where
  offset : Int
  form : Text
  deriving DecidableEq, Repr

abbrev Answer := List (List Token)

inductive Call where
  | blank (language : Option Text)
  | addSentencizer
  | call (language : Option Text)
  deriving DecidableEq, Repr

def Call.describe : Call → String
  | .blank language => "blank " ++ String.ofList (language.getD "None".toList)
  | .addSentencizer => "add_pipe sentencizer"
  | .call language => "call " ++ String.ofList (language.getD "None".toList)

/-- The languages for which there is a pipeline, and all calls so far. -/
structure Shelf where
  languages : List (Option Text) := []
  calls : List Call := []
  deriving DecidableEq, Repr

def Shelf.provide (shelf : Shelf) (language : Option Text) : Shelf :=
  if language ∈ shelf.languages then shelf
  else {
    languages := language :: shelf.languages
    calls := shelf.calls ++ [.blank language, .addSentencizer] }

def Shelf.call (shelf : Shelf) (language : Option Text) : Shelf :=
  let shelf := shelf.provide language
  { shelf with calls := shelf.calls ++ [.call language] }

/-! ## Tiers of an answer -/

def Token.visible (token : Token) : Bool :=
  match token.form.head? with
  | some first => !Text.isSpace first
  | none => true

/-- The visible tokens of one sentence, and the sentence that they make if there
are any. -/
def segmentSentence (text : Text) (tokens : List Token) :
    Except SpanError (Option (List Span × Span)) := do
  let spans ← (tokens.filter Token.visible).mapM fun token =>
    Span.token? text token.offset (token.offset + token.form.length)
  match Span.sentenceOf? text spans with
  | none => return none
  | some made => return some (spans, ← made)

def segment (text : Text) (answer : Answer) : Except SpanError (Tier × Tier) := do
  let sentences ← answer.mapM (segmentSentence text)
  let found := sentences.filterMap id
  return (found.flatMap (·.1), found.map (·.2))

/-! ## The annotator -/

structure Options where
  language : Option Text := none
  fallback : Option Text := some "en".toList
  deriving DecidableEq, Repr

def Options.languageFor (options : Options) (document : Document) : Option Text :=
  ModelChoice.orElse options.language
    (ModelChoice.orElse document.language options.fallback)

/-- Segment documents with a pipeline that gives one answer. If there is trouble that
kept it from going on, that comes out when all sentences before it have been made. -/
def annotator (options : Options) (answer : Answer) (trouble : Option Text := none) :
    Annotator Shelf Failure :=
  fun document shelf =>
    let shelf := shelf.call (options.languageFor document)
    match segment document.text answer, trouble with
    | .error error, _ => ⟨.error (.span error), document, shelf⟩
    | .ok _, some report => ⟨.error (.pipeline report), document, shelf⟩
    | .ok (tokens, sentences), none =>
        ⟨.ok (some [("tokens", tokens), ("sentences", sentences)]), document, shelf⟩

end Pipeline

end Standoff
