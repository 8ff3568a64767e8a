import Standoff.Annotate.Pipeline

/-! Tagging: the parts of speech of a document's tokens, from a tool that is run
for one document.

The sentences and their tokens must be there; a pipeline makes them if not. The
tool is started only when all that it needs has been found, and once it runs it
is closed whatever happens. -/

namespace Standoff

namespace Tagger

/-! ## Taggers -/

structure Options where
  language : Option Text := none
  variant : Option Text := none
  location : Option Text := none
  variantsFile : Option Text := none
  executable : Option Text := none
  /-- A command that takes the place of the executable when it is not empty. -/
  command : List Text := []
  encoding : Option Text := none
  mapping : Bool := true
  mappingFile : Option Text := none
  reportTags : Bool := false
  deriving DecidableEq, Repr

def locationTemplate : Text :=
  "${model_path}/hunpos/tagger-${language}-${variant}.model".toList

end Tagger

structure Tagger where
  options : Tagger.Options
  choice : ModelChoice
  table : Option CategoryTable

namespace Tagger

def given (option : Option Text) : Option Text := option.filter (· ≠ [])

def make (files : FileTree) (options : Options) : Except Failure Tagger := do
  let variants ←
    match given options.variantsFile with
    | none => .ok []
    | some path => (Properties.load files path).mapError .properties
  let table ←
    match given options.mappingFile with
    | none => .ok none
    | some path => ((CategoryTable.load files path).map some).mapError .properties
  return {
    options
    choice := {
      template := some locationTemplate
      language := options.language
      variant := options.variant
      location := options.location
      variants := variants.map fun entry => (entry.1, some entry.2) }
    table }

/-! ## Preparation -/

/-- What surrounds a tagger: the files, the environment, the directory of all
models, the program that a start would run, and what the pipeline finds in the
document. -/
structure Surroundings where
  files : FileTree
  environment : Environment := []
  directory : Text
  program : Program := {}
  segmentation : Pipeline.Answer := []
  segmentationTrouble : Option Text := none

structure State where
  shelf : Pipeline.Shelf := {}
  events : List Event := []
  /-- The bytes that got into the last pipe to a program, if there was one. -/
  written : Option Bytes := none
  notices : List Notice := []

structure Plan where
  model : ResolvedModel
  encoding : Text
  table : Option CategoryTable
  command : List Text

def encodingProperty : Text := "model.encoding".toList

/-- The encoding of the tool: the one asked for, else the one that the model is
kept with. -/
def encodingFor (tagger : Tagger) (files : FileTree) (location : Text) :
    Except Failure Text :=
  match given tagger.options.encoding with
  | some encoding => .ok encoding
  | none =>
      match Properties.ofModel files location with
      | .error error => .error (.properties error)
      | .ok properties =>
          match given (properties.get? encodingProperty) with
          | some encoding => .ok encoding
          | none => .error .noEncoding

def tableFor (tagger : Tagger) (language : Text) : Option CategoryTable :=
  if tagger.options.mapping then
    some (tagger.table.getD (CategoryTable.ofLanguage (some language)))
  else none

def commandFor (tagger : Tagger) (surroundings : Surroundings) (location : Text) :
    Except Failure (List Text) :=
  match tagger.options.command, given tagger.options.executable with
  | [], some executable => .ok [executable, location]
  | [], none =>
      match Executable.find surroundings.files surroundings.environment
          "hunpos-tag".toList (some "HUNPOS_TAG_BIN".toList) with
      | .ok executable => .ok [executable, location]
      | .error error => .error (.executable error)
  | command, _ => .ok (command ++ [location])

/-- Find everything that the tool needs. Nothing is started. -/
def plan (tagger : Tagger) (surroundings : Surroundings) (language : Option Text) :
    Except Failure Plan := do
  let model ← (tagger.choice.resolve language surroundings.directory).mapError .location
  if !surroundings.files.present model.location then
    throw (.noTaggerModel model.location)
  let encoding ← tagger.encodingFor surroundings.files model.location
  let command ← tagger.commandFor surroundings model.location
  return { model, encoding, table := tagger.tableFor model.language, command }

/-! ## Tagging -/

def pair (table : Option CategoryTable) (tokens : List Span) (tags : List Text) :
    List Span :=
  (tokens.zip tags).map fun tagged =>
    Span.partOfSpeech tagged.1 (some tagged.2) (table.bind (·.category tagged.2))

/-- Ask the tool for the tags of sentences, one after the other. A sentence
without tokens is not sent. -/
def tagSentences (text : Text) (table : Option CategoryTable) :
    List Tier → Tool → Except ChannelError (List Span) × Tool
  | [], tool => (.ok [], tool)
  | [] :: rest, tool => tagSentences text table rest tool
  | (first :: others) :: rest, tool =>
      let tokens := first :: others
      match tool.request (tokens.map (Span.covered text)) with
      | (.error error, tool) => (.error error, tool)
      | (.ok tags, tool) =>
          let (later, tool) := tagSentences text table rest tool
          (later.map (pair table tokens tags ++ ·), tool)

def reportFailure (tool : Tool) : Tool :=
  (tool.report (.sentBeforeFailure tool.writer.lastSent)).report
    (.receivedBeforeFailure tool.reader.lastReceived)

def runTool (text : Text) (table : Option CategoryTable) (sentences : List Tier)
    (tool : Tool) : Except ChannelError (List Span) × Tool :=
  match tagSentences text table sentences tool with
  | (.ok spans, tool) => (.ok spans, tool.close)
  | (.error error, tool) => (.error error, (reportFailure tool).close)

def usedTags (spans : List Span) : List Text :=
  ((spans.filterMap (·.label)).mergeSort fun tag other => !other.lex tag).eraseDups

def run (plan : Plan) (program : Program) (reportTags : Bool) (text : Text)
    (sentences : List Tier) (state : State) : Except Failure (List Span) × State :=
  match Tool.start program plan.command plan.encoding {} with
  | .error error =>
      (.error (.start error), { state with
        events := state.events ++ Tool.startEvents plan.command plan.encoding
        written := if error.piped then some [] else state.written
        notices := state.notices ++ [.sentBeforeFailure none, .receivedBeforeFailure none] })
  | .ok tool =>
      let (result, tool) := runTool text plan.table sentences tool
      let state := { state with
        events := state.events ++ tool.events
        written := some tool.written
        notices := state.notices ++ tool.notices }
      match result with
      | .error error => (.error (.channel error), state)
      | .ok spans =>
          (.ok spans,
            if reportTags then { state with
              notices := state.notices ++ [.tagsUsed plan.model.location (usedTags spans)] }
            else state)

def annotator (tagger : Tagger) (surroundings : Surroundings) : Annotator State Failure :=
  fun document state =>
    let segmenter := Pipeline.annotator {} surroundings.segmentation
      surroundings.segmentationTrouble
    match document.require ["tokens", "sentences"] (some segmenter) 0 state.shelf with
    | ⟨.error error, document, shelf⟩ =>
        ⟨.error (.ofRequire error), document, { state with shelf }⟩
    | ⟨.ok tiers, document, shelf⟩ =>
        let state := { state with shelf }
        match tagger.plan surroundings document.language with
        | .error failure => ⟨.error failure, document, state⟩
        | .ok plan =>
            let tokens := tiers.getD 0 []
            let sentences := tiers.getD 1 []
            let groups := (Tier.group sentences tokens).map (·.2)
            match run plan surroundings.program tagger.options.reportTags document.text
                groups state with
            | (.error failure, state) => ⟨.error failure, document, state⟩
            | (.ok spans, state) => ⟨.ok (some [("pos", spans)]), document, state⟩

end Tagger

end Standoff
