import Standoff.Proofs.Annotate.Commitment
import Standoff.Proofs.Channel.Record

/-! How tagging breaks down. What is missing is found before the tool is started. A tool
that was started is closed once, whatever comes of the requests to it, and what had been
sent and received is reported exactly if the start or a request failed. -/

namespace Standoff.Tagger

/-! ## What is needed -/

def attempt (files : FileTree) (options : Options) (surroundings : Surroundings) :
    Annotator State Failure :=
  fun document state =>
    match make files options with
    | .error failure => ⟨.error failure, document, state⟩
    | .ok tagger => tagger.annotator surroundings document state

/-- What keeps a tagger from a plan first. -/
inductive Unplannable (tagger : Tagger) (surroundings : Surroundings)
    (language : Option Text) : Failure → Prop
  | model {error : LocationError}
      (unresolved : tagger.choice.resolve language surroundings.directory = .error error) :
      Unplannable tagger surroundings language (.location error)
  | modelFile {model : ResolvedModel}
      (resolved : tagger.choice.resolve language surroundings.directory = .ok model)
      (absent : surroundings.files.present model.location = false) :
      Unplannable tagger surroundings language (.noTaggerModel model.location)
  | encoding {model : ResolvedModel} {failure : Failure}
      (resolved : tagger.choice.resolve language surroundings.directory = .ok model)
      (present : surroundings.files.present model.location)
      (unknown : tagger.encodingFor surroundings.files model.location = .error failure) :
      Unplannable tagger surroundings language failure
  | command {model : ResolvedModel} {encoding : Text} {failure : Failure}
      (resolved : tagger.choice.resolve language surroundings.directory = .ok model)
      (present : surroundings.files.present model.location)
      (known : tagger.encodingFor surroundings.files model.location = .ok encoding)
      (unfound : tagger.commandFor surroundings model.location = .error failure) :
      Unplannable tagger surroundings language failure

/-- What keeps the program of a command from being started first. Its pipes are made and
fitted with the encoding before it is run. -/
inductive Unstartable (program : Program) (command : List Text) (name : Text) : StartError → Prop
  | pipes {fault : StartFault} (refused : program.refusal .pipes = some fault) :
      Unstartable program command name (.refused command fault)
  | encoding {error : Encoding.NameError} (piped : program.refusal .pipes = none)
      (unknown : Encoding.named name = .error error) :
      Unstartable program command name (.encoding error)
  | program {encoding : Encoding} {fault : StartFault} (piped : program.refusal .pipes = none)
      (known : Encoding.named name = .ok encoding)
      (refused : program.refusal .program = some fault) :
      Unstartable program command name (.refused command fault)

/-- The first thing that the tool needs and that is missing, and the failure it comes out
with. -/
inductive Lacks (files : FileTree) (options : Options) (surroundings : Surroundings)
    (document : Document) (shelf : Pipeline.Shelf) : Failure → Prop
  | files {failure : Failure} (unread : make files options = .error failure) :
      Lacks files options surroundings document shelf failure
  | tiers {tagger : Tagger} {error : RequireError Failure}
      (made : make files options = .ok tagger)
      (missing : (required surroundings document shelf).result = .error error) :
      Lacks files options surroundings document shelf (.ofRequire error)
  | plan {tagger : Tagger} {tokens sentences : Tier} {failure : Failure}
      (made : make files options = .ok tagger)
      (tiers : (required surroundings document shelf).result = .ok [tokens, sentences])
      (unplannable : Unplannable tagger surroundings document.language failure) :
      Lacks files options surroundings document shelf failure

/-- Everything is there that the tool needs to be started for a document. -/
structure Prepared (files : FileTree) (options : Options) (surroundings : Surroundings)
    (document : Document) (shelf : Pipeline.Shelf) (tagger : Tagger) (tokens sentences : Tier)
    (plan : Plan) : Prop where
  made : make files options = .ok tagger
  tiers : (required surroundings document shelf).result = .ok [tokens, sentences]
  model : tagger.choice.resolve document.language surroundings.directory = .ok plan.model
  modelFile : surroundings.files.present plan.model.location
  encoding : tagger.encodingFor surroundings.files plan.model.location = .ok plan.encoding
  command : tagger.commandFor surroundings plan.model.location = .ok plan.command
  table : plan.table = tagger.tableFor plan.model.language

section

variable {tagger : Tagger} {surroundings : Surroundings} {document base : Document}
  {shelf : Pipeline.Shelf}

theorem unplannable_of_plan {language : Option Text} {failure : Failure}
    (failed : tagger.plan surroundings language = .error failure) :
    Unplannable tagger surroundings language failure := by
  simp only [Tagger.plan, Result.bind_eq_error_iff, Result.mapError_eq_error_iff,
    Result.mapError_eq_ok_iff] at failed
  rcases failed with ⟨error, unresolved, rfl⟩ | ⟨model, resolved, failed⟩
  · exact .model unresolved
  · cases present : surroundings.files.present model.location with
    | false =>
        rw [present] at failed
        cases failed
        exact .modelFile resolved present
    | true =>
        rw [present] at failed
        simp only [Bool.not_true, Bool.false_eq_true, if_false, Result.bind_eq_error_iff] at failed
        rcases failed with unknown | ⟨encoding, known, unfound | ⟨command, found, failed⟩⟩
        · exact .encoding resolved present unknown
        · exact .command resolved present known unfound
        · cases failed

theorem StartsFrom.text (starts : StartsFrom surroundings document shelf base) :
    base.text = document.text := by
  cases starts with
  | there => rfl
  | failed => rfl
  | made _ _ _ committed => exact committed.text

theorem StartsFrom.language (starts : StartsFrom surroundings document shelf base) :
    base.language = document.language := by
  cases starts with
  | there => rfl
  | failed => rfl
  | made _ _ _ committed => exact committed.language

theorem options_of_make {files : FileTree} {options : Options}
    (made : make files options = .ok tagger) : tagger.options = options := by
  simp only [make] at made
  generalize given options.variantsFile = variantsFile at made
  generalize given options.mappingFile = mappingFile at made
  cases variantsFile
  all_goals
    rcases Result.bind_eq_ok_iff.mp made with ⟨variants, _, rest⟩
    cases mappingFile
    all_goals
      rcases Result.bind_eq_ok_iff.mp rest with ⟨table, _, returned⟩
      cases returned
      rfl

end

section

variable {files : FileTree} {options : Options} {surroundings : Surroundings}
  {document : Document} {state : State}

theorem attempt_of_prepared {tagger : Tagger} {tokens sentences : Tier} {plan : Plan}
    (prepared : Prepared files options surroundings document state.shelf tagger tokens sentences
      plan) :
    ∃ base after, attempt files options surroundings document state =
      let ran := run plan surroundings.program options.reportTags document.text
        ((Tier.group sentences tokens).map (·.2)) { state with shelf := after }
      ⟨ran.1.map fun spans => some [("pos", spans)], base, ran.2⟩ := by
  have planned : tagger.plan surroundings document.language = .ok plan :=
    plan_eq_ok_iff.mpr ⟨prepared.model, prepared.modelFile, prepared.encoding, prepared.command,
      prepared.table⟩
  have tiers := prepared.tiers
  rcases required_cases surroundings document state.shelf with
    ⟨base, after, starts, ⟨error, failed⟩ | ⟨foundTokens, foundSentences, found, _⟩⟩
  · rw [failed] at tiers
    cases tiers
  · rw [found] at tiers
    cases tiers
    refine ⟨base, after, ?_⟩
    simp only [attempt, prepared.made, annotator_of_required found, starts.language, planned,
      starts.text, options_of_make prepared.made]

theorem attempt_of_unprepared
    (unprepared : ¬ ∃ tagger tokens sentences plan,
      Prepared files options surroundings document state.shelf tagger tokens sentences plan) :
    ∃ failure base after, Lacks files options surroundings document state.shelf failure ∧
      attempt files options surroundings document state =
        ⟨.error failure, base, { state with shelf := after }⟩ := by
  unfold attempt
  cases made : make files options with
  | error failure => exact ⟨failure, document, state.shelf, .files made, rfl⟩
  | ok tagger =>
      rcases required_cases surroundings document state.shelf with
        ⟨base, after, starts, ⟨error, failed⟩ | ⟨tokens, sentences, found, _⟩⟩
      · exact ⟨_, base, after, .tiers made (congrArg Outcome.result failed),
          annotator_of_unavailable failed⟩
      · have tiers := congrArg Outcome.result found
        have annotates : tagger.annotator surroundings document state = _ :=
          annotator_of_required found
        rw [starts.language] at annotates
        cases planned : tagger.plan surroundings document.language with
        | error failure =>
            rw [planned] at annotates
            exact ⟨failure, base, after, .plan made tiers (unplannable_of_plan planned), annotates⟩
        | ok plan =>
            rcases plan_eq_ok_iff.mp planned with ⟨model, modelFile, encoding, command, table⟩
            exact absurd ⟨tagger, tokens, sentences, plan, made, tiers, model, modelFile, encoding,
              command, table⟩ unprepared

end

/-! ## Requests for sentences -/

def requestsFor (text : Text) (groups : List Tier) : List (List Text) :=
  (groups.filter (· ≠ [])).map (List.map (Span.covered text))

theorem tagSentences_cases (text : Text) (table : Option CategoryTable) (groups : List Tier)
    (tool : Tool) :
    (∃ spans after, tagSentences text table groups tool = (.ok spans, after) ∧
      tool.Answered (requestsFor text groups) after) ∨
    ∃ error asked after, tagSentences text table groups tool = (.error error, after) ∧
      Tool.BrokenOff error after tool (requestsFor text groups) asked := by
  induction groups generalizing tool with
  | nil => exact Or.inl ⟨[], tool, rfl, .nil⟩
  | cons group rest induction =>
      cases group with
      | nil => exact induction tool
      | cons first others =>
          have requests : requestsFor text ((first :: others) :: rest) =
              (first :: others).map (Span.covered text) :: requestsFor text rest := by
            simp [requestsFor]
          rw [requests]
          simp only [tagSentences]
          rcases requested : tool.request ((first :: others).map (Span.covered text)) with
            ⟨error | tags, next⟩
          · exact Or.inr ⟨error, _, next, rfl, .here requested⟩
          · rcases induction next with
              ⟨spans, after, tagged, answered⟩ | ⟨error, asked, after, tagged, broken⟩
            · simp only [tagged]
              exact Or.inl ⟨_, after, rfl, .cons requested answered⟩
            · simp only [tagged]
              exact Or.inr ⟨error, _, after, rfl, .later requested broken⟩

/-! ## The end of the tool -/

/-- What the requests to a tool come to, and what is reported until it has been closed. -/
inductive Course (plan : Plan) (reportTags : Bool) (tool : Tool) (requests : List (List Text)) :
    Except Failure (Option Tiers) → List Notice → Prop
  | answered {spans : List Span} {after : Tool} (answered : tool.Answered requests after) :
      Course plan reportTags tool requests (.ok (some [("pos", spans)]))
        (.started tool.name tool.program.process :: after.closingNotices ++
          if reportTags then [.tagsUsed plan.model.location (usedTags spans)] else [])
  | brokenOff {error : ChannelError} {after : Tool} {asked : List (List Text)}
      {seen : List (Except ReadFault Text)}
      (brokenOff : Tool.BrokenOff error after tool requests asked)
      (read : tool.reader.stream.answers = seen ++ after.reader.stream.answers) :
      Course plan reportTags tool requests (.error (.channel error))
        (.started tool.name tool.program.process :: .sentBeforeFailure (lastSendable asked) ::
          .receivedBeforeFailure (lastVisible seen) :: after.closingNotices)

theorem life_reportFailure (tool : Tool) :
    (reportFailure tool).life = { tool.life with
      notices := tool.life.notices ++ [.sentBeforeFailure tool.writer.lastSent,
        .receivedBeforeFailure tool.reader.lastReceived] } := by
  simp [reportFailure, Tool.report, Tool.life]

section

variable {program : Program} {plan : Plan} {reportTags : Bool} {text : Text}
  {groups : List Tier} {state : State}

theorem run_of_refused {error : StartError}
    (refused : Tool.start program plan.command plan.encoding {} = .error error) :
    let ran := run plan program reportTags text groups state
    ran.1 = .error (.start error) ∧
      ran.2.events = state.events ++ Tool.startEvents plan.command plan.encoding ∧
      ran.2.notices =
        state.notices ++ [.sentBeforeFailure none, .receivedBeforeFailure none] := by
  simp [run, refused]

theorem unstartable_of_start {command : List Text} {name : Text} {error : StartError}
    (nonempty : command ≠ []) (failed : Tool.start program command name {} = .error error) :
    Unstartable program command name error := by
  cases piped : program.refusal .pipes with
  | some fault =>
      simp only [Tool.start, piped] at failed
      cases failed
      exact .pipes piped
  | none =>
      cases known : Encoding.named name with
      | error unknown =>
          simp only [Tool.start, piped, known] at failed
          cases failed
          exact .encoding piped known
      | ok encoding =>
          cases command with
          | nil => exact absurd rfl nonempty
          | cons first rest =>
              cases refused : program.refusal .program with
              | some fault =>
                  simp only [Tool.start, piped, known, refused] at failed
                  cases failed
                  exact .program piped known refused
              | none =>
                  simp only [Tool.start, piped, known, refused] at failed
                  cases failed

theorem run_of_started {tool : Tool}
    (started : Tool.start program plan.command plan.encoding {} = .ok tool) :
    let ran := run plan program reportTags text groups state
    ran.2.events = state.events ++ Tool.startEvents plan.command plan.encoding ++
        Tool.endingOf program.conduct (some 5) (program.conduct == .exited) ∧
      ∃ notices, ran.2.notices = state.notices ++ notices ∧
        Course plan reportTags tool (requestsFor text groups)
          (ran.1.map fun spans => some [("pos", spans)]) notices := by
  have born := Tool.life_of_start started
  obtain rfl : tool.program = program := congrArg Tool.Life.program born
  have returns := Tool.outlives_of_limited tool.program.conduct 5
    (tool.program.conduct == .exited)
  rw [List.append_assoc]
  unfold run
  rw [started]
  simp only [runTool]
  rcases tagSentences_cases text plan.table groups tool with
    ⟨spans, after, tagged, answered⟩ | ⟨error, asked, after, tagged, brokenOff⟩
  · rcases Tool.close_of_life (answered.life.trans born) rfl rfl returns with ⟨events, notices⟩
    rw [tagged]
    refine ⟨?_, _, ?_, .answered answered⟩
    · cases reportTags <;> exact congrArg (state.events ++ ·) events
    · cases reportTags <;> simp [notices]
  · rcases brokenOff.remembers (Tool.remembers_of_start started) with ⟨taken, remembers⟩
    have reported := life_reportFailure after
    rw [remembers.lastSent, remembers.hasRead.lastReceived, brokenOff.life.trans born] at reported
    rcases Tool.close_of_life reported rfl rfl returns with ⟨events, notices⟩
    have read : tool.reader.stream.answers =
        tool.reader.stream.answers.take taken ++ after.reader.stream.answers := by
      rw [remembers.hasRead.answers, List.take_append_drop]
    have course := @Course.brokenOff plan reportTags _ _ _ _ _ _ brokenOff read
    rw [tagged]
    exact ⟨congrArg (state.events ++ ·) events, _, congrArg (state.notices ++ ·) notices, course⟩

end

/-- Nothing is done before all that the tool needs is there. Then the tool is started, and
once it runs it is closed, so that its program is brought to an end exactly once. The
failure is that of the first step that fails, and what was sent and received last is
reported if that is the start or a request. The pipe to the program may break before any of
the requests, and its output may arrive in any pieces. Encodings are the three of `Encoding`;
every other name is unknown. -/
theorem attempt_breakdown (files : FileTree) (options : Options) (surroundings : Surroundings)
    (document : Document) (state : State) :
    let outcome := attempt files options surroundings document state
    ((¬ ∃ tagger tokens sentences plan,
        Prepared files options surroundings document state.shelf tagger tokens sentences plan) →
      ∃ failure, Lacks files options surroundings document state.shelf failure ∧
        outcome.result = .error failure ∧ outcome.state.events = state.events ∧
        outcome.state.written = state.written ∧ outcome.state.notices = state.notices) ∧
    ∀ tagger tokens sentences plan,
      Prepared files options surroundings document state.shelf tagger tokens sentences plan →
      let program := surroundings.program
      let started := Tool.start program plan.command plan.encoding {}
      let requests := requestsFor document.text ((Tier.group sentences tokens).map (·.2))
      let events := state.events ++ Tool.startEvents plan.command plan.encoding
      (∀ error, started = .error error →
        Unstartable program plan.command plan.encoding error ∧
        outcome.result = .error (.start error) ∧ outcome.state.events = events ∧
        outcome.state.notices =
          state.notices ++ [.sentBeforeFailure none, .receivedBeforeFailure none]) ∧
      ∀ tool, started = .ok tool →
        outcome.state.events =
          events ++ Tool.endingOf program.conduct (some 5) (program.conduct == .exited) ∧
        ∃ notices, outcome.state.notices = state.notices ++ notices ∧
          Course plan options.reportTags tool requests outcome.result notices := by
  intro outcome
  constructor
  · intro unprepared
    rcases attempt_of_unprepared unprepared with ⟨failure, base, after, lacks, attempted⟩
    refine ⟨failure, lacks, ?_⟩
    simp only [outcome, attempted, and_self]
  · intro tagger tokens sentences plan prepared program started requests events
    rcases attempt_of_prepared prepared with ⟨base, after, attempted⟩
    rw [show outcome = _ from attempted]
    constructor
    · intro error refused
      rcases run_of_refused refused with ⟨result, done, reported⟩
      have unstartable := unstartable_of_start (command_ne_nil prepared.command) refused
      exact ⟨unstartable, congrArg (Except.map _) result, done, reported⟩
    · exact fun tool running => run_of_started running

/-- A model that is not there, an encoding that is unknown, a tool that breaks off its output
in the second sentence, and one that exits before it has read that sentence. -/
theorem attempt_breakdown_in_second_sentence :
    let options (encoding : String) : Options := {
      language := some "en".toList
      location := some ['m']
      command := ["tagger".toList]
      encoding := some encoding.toList }
    let output := Bytes.lineWise
      ("Hi\tUH\n\nJoe\tNNP\n\n".toList.flatMap Encoding.utf8.encodeCharacter)
    let surroundings (program : Program) : Surroundings := {
      files := [([['m']], .file [] false)]
      directory := []
      program }
    let tokens : Tier := [⟨0, 2, none, none, .token⟩, ⟨3, 6, none, none, .token⟩,
      ⟨7, 8, none, none, .token⟩]
    let sentences : Tier := [⟨0, 2, none, none, .sentence⟩, ⟨3, 8, none, none, .sentence⟩]
    let document : Document := {
      text := "Hi Joe .".toList
      tiers := [("tokens", tokens), ("sentences", sentences)] }
    let refusal : StartFault := { stage := .program, number := 13, reason := "denied".toList }
    let lost := attempt [] (options "utf8") { surroundings {} with files := [] } document {}
    let misnamed := attempt [] (options "utf9") (surroundings { startFault := some refusal })
      document {}
    let short := attempt [] (options "utf8") (surroundings { output, conduct := .stubborn })
      document {}
    let gone := attempt [] (options "utf8")
      (surroundings { output, inputBreaksAfter := some 1, conduct := .exited }) document {}
    (lost.state.events = [] ∧ lost.state.notices = []) ∧
    (misnamed.result = .error (.start (.encoding (.unknown "utf9".toList))) ∧
      misnamed.state.notices = [.sentBeforeFailure none, .receivedBeforeFailure none]) ∧
    (short.result = .error (.channel (.protocol (.tooFewTags 1 2))) ∧
      short.state.events = [.start ["tagger".toList, ['m']] "utf8".toList, .terminate,
        .wait (some 5), .kill, .wait none] ∧
      short.state.notices = [.started "tagger".toList 0,
        .sentBeforeFailure (some "Joe .".toList), .receivedBeforeFailure (some "Joe\tNNP".toList),
        .stopped "tagger".toList 0]) ∧
    gone.result = .error (.channel (.protocol (.unwritable .brokenPipe))) ∧
      gone.state.events = [.start ["tagger".toList, ['m']] "utf8".toList] ∧
      gone.state.notices = [.started "tagger".toList 0,
        .sentBeforeFailure (some "Joe .".toList), .receivedBeforeFailure (some "Hi\tUH".toList),
        .pipeNotClosed "tagger".toList .brokenPipe, .stopped "tagger".toList 0] := by
  intro options output surroundings tokens sentences document refusal lost misnamed short gone
  let model : ResolvedModel := ⟨['m'], "en".toList, some "default".toList⟩
  let bare : Surroundings := { surroundings {} with files := [] }
  have unprepared : ¬ ∃ tagger tokens sentences plan,
      Prepared [] (options "utf8") bare document {} tagger tokens sentences plan := by
    rintro ⟨tagger, _, _, plan, prepared⟩
    cases prepared.made
    have resolved : Except.ok model = .ok plan.model := prepared.model
    have present := prepared.modelFile
    rw [← Except.ok.inj resolved] at present
    cases present
  rcases (attempt_breakdown [] (options "utf8") bare document {}).1 unprepared with
    ⟨_, _, _, nothingDone, _, nothingReported⟩
  let tagger (encoding : String) : Tagger := {
    options := options encoding
    choice := {
      template := some locationTemplate
      language := some "en".toList
      location := some ['m'] }
    table := none }
  let plan (encoding : String) : Plan := {
    model
    encoding := encoding.toList
    table := (tagger encoding).tableFor model.language
    command := ["tagger".toList, ['m']] }
  have prepared (program : Program) : Prepared [] (options "utf8") (surroundings program)
      document {} (tagger "utf8") tokens sentences (plan "utf8") :=
    ⟨rfl, rfl, rfl, rfl, rfl, rfl, rfl⟩
  have misprepared : Prepared [] (options "utf9") (surroundings { startFault := some refusal })
      document {} (tagger "utf9") tokens sentences (plan "utf9") :=
    ⟨rfl, rfl, rfl, rfl, rfl, rfl, rfl⟩
  rcases ((attempt_breakdown [] _ _ document {}).2 _ _ _ _ misprepared).1 _ rfl with
    ⟨_, unknown, _, reported⟩
  have breakdown (program : Program) :=
    (attempt_breakdown [] _ (surroundings program) document {}).2 _ _ _ _ (prepared program)
  have closed := ((breakdown { output, conduct := .stubborn }).2 _ rfl).1
  have left :=
    ((breakdown { output, inputBreaksAfter := some 1, conduct := .exited }).2 _ rfl).1
  exact ⟨⟨nothingDone, nothingReported⟩, ⟨unknown, reported⟩, ⟨rfl, closed, rfl⟩, rfl, left, rfl⟩

end Standoff.Tagger
