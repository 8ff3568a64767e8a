import Standoff.Annotate.Tagger
import Standoff.Proofs.Channel.Exchange
import Standoff.Proofs.Overlap

/-! When tagging succeeds, and which tag each token gets. The tokens are grouped by
sentences, and the answers of the tool are taken as blocks, one to each group that is
not empty, so that an error in one of them cannot shift the tags of another. -/

namespace Standoff

namespace Tagger

/-! ## Preparation -/

theorem plan_eq_ok_iff {tagger : Tagger} {surroundings : Surroundings} {language : Option Text}
    {plan : Plan} :
    tagger.plan surroundings language = .ok plan ↔
      tagger.choice.resolve language surroundings.directory = .ok plan.model ∧
      surroundings.files.present plan.model.location ∧
      tagger.encodingFor surroundings.files plan.model.location = .ok plan.encoding ∧
      tagger.commandFor surroundings plan.model.location = .ok plan.command ∧
      plan.table = tagger.tableFor plan.model.language := by
  rcases plan with ⟨model, encoding, table, command⟩
  simp only [Tagger.plan, Result.bind_eq_ok_iff, Result.mapError_eq_ok_iff]
  constructor
  · rintro ⟨model, resolved, rest⟩
    by_cases present : surroundings.files.present model.location
    · simp only [present, Bool.not_true, Bool.false_eq_true, if_false,
        Result.bind_eq_ok_iff] at rest
      rcases rest with ⟨encoding, encodes, command, commands, equal⟩
      cases equal
      exact ⟨resolved, present, encodes, commands, rfl⟩
    · simp only [present, Bool.not_false, if_true, Result.bind_eq_ok_iff] at rest
      rcases rest with ⟨_, thrown, _⟩
      cases thrown
  · rintro ⟨resolved, present, encodes, commands, rfl⟩
    refine ⟨model, resolved, ?_⟩
    simp only [present, Bool.not_true, Bool.false_eq_true, if_false, encodes, commands]
    rfl

theorem command_ne_nil {tagger : Tagger} {surroundings : Surroundings} {location : Text}
    {command : List Text} (found : tagger.commandFor surroundings location = .ok command) :
    command ≠ [] := by
  unfold commandFor at found
  split at found
  · cases found
    exact List.cons_ne_nil _ _
  · split at found <;> cases found
    exact List.cons_ne_nil _ _
  · cases found
    simp

/-! ## Blocks of answers -/

/-- A block of answers for each group of tokens of a text, with a tag for each of them,
where a tool can be sent the tokens. -/
inductive Framed (encoding : Encoding) (text : Text) :
    List Tier → List (Except ReadFault Text) → List Text → Prop
  | nil {answers : List (Except ReadFault Text)} : Framed encoding text [] answers []
  | cons {group : Tier} {groups : List Tier} {answers rest : List (Except ReadFault Text)}
      {tags later : List Text}
      (transmissible : ∀ token ∈ group, Transmissible encoding (token.covered text))
      (block : Block ['\t'] 1 answers tags rest) (count : tags.length = group.length)
      (behind : Framed encoding text groups rest later) :
      Framed encoding text (group :: groups) answers (tags ++ later)

section

variable {encoding : Encoding} {remaining : Option Nat} {text : Text}
  {table : Option CategoryTable} {groups : List Tier} {answers : List (Except ReadFault Text)} {tags : List Text}
  {tool after : Tool} {spans : List Span}

theorem Framed.length_eq (framed : Framed encoding text groups answers tags) :
    tags.length = groups.flatten.length := by
  induction framed with
  | nil => rfl
  | cons _ _ count _ induction => simp [count, induction]

theorem pair_eq_zipWith (tokens : List Span) (tags : List Text) :
    pair table tokens tags = List.zipWith
      (fun token tag => Span.partOfSpeech token (some tag) (table.bind (·.category tag)))
      tokens tags :=
  List.map_zip_eq_zipWith

theorem pair_append {tokens later : List Span} {others : List Text}
    (count : tags.length = tokens.length) :
    pair table (tokens ++ later) (tags ++ others) =
      pair table tokens tags ++ pair table later others := by
  rw [pair, List.zip_append count.symm, List.map_append, pair, pair]

theorem tagSentences_of_framed (ready : tool.Ready encoding none answers)
    (framed : Framed encoding text (groups.filter (· ≠ [])) answers tags) :
    ∃ after, tagSentences text table groups tool =
      (.ok (pair table groups.flatten tags), after) := by
  -- A tool that has answered for one group is ready with the answers behind its block.
  induction groups generalizing tool answers tags with
  | nil =>
      exact ⟨tool, rfl⟩
  | cons group rest induction =>
      cases group with
      | nil => exact induction ready framed
      | cons first others =>
          rw [List.filter_cons_of_pos (by simp)] at framed
          cases framed with
          | cons transmissible block count behind =>
              have sendable := List.forall_mem_map.mpr transmissible
              rcases Tool.request_of_block ready nofun sendable block (by simpa using count) with
                ⟨next, requested, readyNext⟩
              rcases induction readyNext behind with ⟨after, tagged⟩
              refine ⟨after, ?_⟩
              simp only [tagSentences, requested, tagged, Except.map, List.flatten_cons,
                pair_append count]

theorem framed_of_tagSentences (ready : tool.Ready encoding remaining answers)
    (tagged : tagSentences text table groups tool = (.ok spans, after)) :
    ∃ tags, Framed encoding text (groups.filter (· ≠ [])) answers tags ∧
      spans = pair table groups.flatten tags := by
  induction groups generalizing tool remaining answers spans with
  | nil =>
      cases tagged
      exact ⟨[], .nil, rfl⟩
  | cons group rest induction =>
      cases group with
      | nil => exact induction ready tagged
      | cons first others =>
          simp only [tagSentences] at tagged
          rcases requested : tool.request ((first :: others).map (Span.covered text)) with
            ⟨result, next⟩
          rw [requested] at tagged
          cases result with
          | error error => cases tagged
          | ok tags =>
              rcases Tool.block_of_request ready requested with
                ⟨_, transmissible, _, block, count, readyNext⟩
              rcases restTagged : tagSentences text table rest next with ⟨later, last⟩
              simp only [restTagged, Prod.mk.injEq, Result.map_eq_ok_iff] at tagged
              rcases tagged with ⟨⟨laterSpans, rfl, rfl⟩, rfl⟩
              rcases induction readyNext restTagged with ⟨laterTags, framed, rfl⟩
              rw [List.length_map] at count
              refine ⟨tags ++ laterTags, ?_, ?_⟩
              · rw [List.filter_cons_of_pos (by simp)]
                exact .cons (List.forall_mem_map.mp transmissible) block count framed
              · rw [List.flatten_cons, pair_append count]

end

/-! ## Tagging a document -/

section

variable {tagger : Tagger} {surroundings : Surroundings} {document : Document} {state : State}
  {tokens sentences : Tier} {plan : Plan}

theorem run_eq_ok_iff {program : Program} {reportTags : Bool} {text : Text} {groups : List Tier}
    {spans : List Span} :
    (run plan program reportTags text groups state).1 = .ok spans ↔
      ∃ tool after, Tool.start program plan.command plan.encoding {} = .ok tool ∧
        tagSentences text plan.table groups tool = (.ok spans, after) := by
  unfold run
  cases started : Tool.start program plan.command plan.encoding {} with
  | error error => simp
  | ok tool =>
      rcases tagged : tagSentences text plan.table groups tool with ⟨result, after⟩
      cases result with
      | error error => simp [runTool, tagged]
      | ok found => cases reportTags <;> simp [runTool, tagged]

def required (surroundings : Surroundings) (document : Document) (shelf : Pipeline.Shelf) :
    Outcome Pipeline.Shelf (RequireError Failure) (List Tier) :=
  document.require ["tokens", "sentences"]
    (some (Pipeline.annotator {} surroundings.segmentation surroundings.segmentationTrouble)) 0
    shelf

theorem tiers?_of_there (tokensThere : document.tiers.get? "tokens" = some tokens)
    (sentencesThere : document.tiers.get? "sentences" = some sentences) :
    document.tiers? ["tokens", "sentences"] = some [tokens, sentences] := by
  simp [Document.tiers?, tokensThere, sentencesThere]

theorem required_of_there (surroundings : Surroundings)
    (tokensThere : document.tiers.get? "tokens" = some tokens)
    (sentencesThere : document.tiers.get? "sentences" = some sentences)
    (shelf : Pipeline.Shelf) :
    required surroundings document shelf = ⟨.ok [tokens, sentences], document, shelf⟩ := by
  simp [required, Document.require, tiers?_of_there tokensThere sentencesThere]

theorem annotator_of_unavailable {base : Document} {shelf : Pipeline.Shelf}
    {error : RequireError Failure}
    (failed : required surroundings document state.shelf = ⟨.error error, base, shelf⟩) :
    tagger.annotator surroundings document state =
      ⟨.error (.ofRequire error), base, { state with shelf }⟩ := by
  unfold required at failed
  simp only [annotator, failed]

theorem annotator_of_required {base : Document} {shelf : Pipeline.Shelf}
    (found : required surroundings document state.shelf =
      ⟨.ok [tokens, sentences], base, shelf⟩) :
    tagger.annotator surroundings document state =
      match tagger.plan surroundings base.language with
      | .error failure => ⟨.error failure, base, { state with shelf }⟩
      | .ok plan =>
          let (result, after) := run plan surroundings.program tagger.options.reportTags base.text
            ((Tier.group sentences tokens).map (·.2)) { state with shelf }
          ⟨result.map fun spans => some [("pos", spans)], base, after⟩ := by
  unfold required at found
  unfold annotator
  simp only [found, List.getD_cons_zero, List.getD_cons_succ]
  cases tagger.plan surroundings base.language with
  | error failure => rfl
  | ok plan =>
      simp only
      generalize run plan surroundings.program tagger.options.reportTags base.text
        ((Tier.group sentences tokens).map (·.2)) { state with shelf } = ran
      rcases ran with ⟨failure | spans, after⟩ <;> rfl

theorem annotator_result (tokensThere : document.tiers.get? "tokens" = some tokens)
    (sentencesThere : document.tiers.get? "sentences" = some sentences) :
    (tagger.annotator surroundings document state).result =
      (tagger.plan surroundings document.language).bind fun plan =>
        (run plan surroundings.program tagger.options.reportTags document.text
          ((Tier.group sentences tokens).map (·.2)) state).1.map fun spans =>
            some [("pos", spans)] := by
  rw [annotator_of_required (required_of_there surroundings tokensThere sentencesThere _)]
  cases tagger.plan surroundings document.language <;> rfl

/-- Where both tiers are there, tagging starts the tool of a plan and asks it for the
tags of the groups. -/
theorem annotator_eq_ok_iff (tokensThere : document.tiers.get? "tokens" = some tokens)
    (sentencesThere : document.tiers.get? "sentences" = some sentences) {made : Option Tiers} :
    (tagger.annotator surroundings document state).result = .ok made ↔
      ∃ plan, tagger.plan surroundings document.language = .ok plan ∧
        ∃ spans, (∃ tool after,
          Tool.start surroundings.program plan.command plan.encoding {} = .ok tool ∧
          tagSentences document.text plan.table ((Tier.group sentences tokens).map (·.2)) tool =
            (.ok spans, after)) ∧ some [("pos", spans)] = made := by
  rw [annotator_result tokensThere sentencesThere]
  refine Result.bind_eq_ok_iff.trans ?_
  simp only [Result.map_eq_ok_iff, run_eq_ok_iff]

theorem framed_of_annotator (tokensThere : document.tiers.get? "tokens" = some tokens)
    (sentencesThere : document.tiers.get? "sentences" = some sentences) {made : Option Tiers}
    (returned : (tagger.annotator surroundings document state).result = .ok made) :
    ∃ plan encoding tags, tagger.plan surroundings document.language = .ok plan ∧
      Encoding.named plan.encoding = .ok encoding ∧
      Framed encoding document.text
        (((Tier.group sentences tokens).map (·.2)).filter (· ≠ []))
        (LineStream.ofPieces encoding surroundings.program.failsAtEnd
          surroundings.program.output).answers tags ∧
      some [("pos", pair plan.table ((Tier.group sentences tokens).map (·.2)).flatten tags)] =
        made := by
  rcases (annotator_eq_ok_iff tokensThere sentencesThere).mp returned with
    ⟨plan, planned, spans, ⟨tool, after, started, tagged⟩, rfl⟩
  rcases Tool.ready_of_start started with ⟨encoding, known, ready⟩
  rcases framed_of_tagSentences ready tagged with ⟨tags, framed, rfl⟩
  exact ⟨plan, encoding, tags, planned, known, framed, rfl⟩

theorem annotator_of_framed {encoding : Encoding} {tags : List Text}
    (tokensThere : document.tiers.get? "tokens" = some tokens)
    (sentencesThere : document.tiers.get? "sentences" = some sentences)
    (planned : tagger.plan surroundings document.language = .ok plan)
    (startable : surroundings.program.startFault = none)
    (known : Encoding.named plan.encoding = .ok encoding)
    (working : surroundings.program.inputBreaksAfter = none)
    (framed : Framed encoding document.text
      (((Tier.group sentences tokens).map (·.2)).filter (· ≠ []))
      (LineStream.ofPieces encoding surroundings.program.failsAtEnd
        surroundings.program.output).answers tags) :
    (tagger.annotator surroundings document state).result =
      .ok (some [("pos",
        pair plan.table ((Tier.group sentences tokens).map (·.2)).flatten tags)]) := by
  rcases plan_eq_ok_iff.mp planned with ⟨_, _, _, commanded, _⟩
  obtain ⟨tool, started⟩ : ∃ tool,
      Tool.start surroundings.program plan.command plan.encoding {} = .ok tool :=
    Tool.exists_start startable known (command_ne_nil commanded)
  rcases Tool.ready_of_start started with ⟨_, same, ready⟩
  obtain rfl := Except.ok.inj (known.symm.trans same)
  rw [working] at ready
  rcases tagSentences_of_framed ready framed with ⟨after, tagged⟩
  exact (annotator_eq_ok_iff tokensThere sentencesThere).mpr
    ⟨plan, planned, _, ⟨tool, after, started, tagged⟩, rfl⟩

theorem filter_group_ne_nil (tokensOrdered : tokens.StartsOrdered)
    (sentencesOrdered : sentences.StartsOrdered) :
    ((Tier.group sentences tokens).map (·.2)).filter (· ≠ []) =
      Tier.reachedGroups sentences tokens := by
  rw [Tier.group_eq_map_filter sentencesOrdered tokensOrdered, List.map_map]
  rfl

/-- Tagging succeeds exactly when the answers of the tool are framed as the groups of
tokens are, and then each token that lies in a sentence gets the tag of its own line. The
output of the tool is in one of the three encodings of `Encoding` and may arrive in any
pieces, line by line or otherwise. -/
theorem annotator_pairs_framed (state : State) {encoding : Encoding}
    (tokensThere : document.tiers.get? "tokens" = some tokens)
    (sentencesThere : document.tiers.get? "sentences" = some sentences)
    (tokensOrdered : tokens.StartsOrdered) (sentencesOrdered : sentences.StartsOrdered)
    (disjoint : sentences.Disjoint)
    (planned : tagger.plan surroundings document.language = .ok plan)
    (startable : surroundings.program.startFault = none)
    (known : Encoding.named plan.encoding = .ok encoding)
    (working : surroundings.program.inputBreaksAfter = none) :
    let groups := Tier.reachedGroups sentences tokens
    let answers := (LineStream.ofPieces encoding surroundings.program.failsAtEnd
      surroundings.program.output).answers
    let coarse (tag : Text) := (tagger.tableFor plan.model.language).bind (·.category tag)
    (∀ made, (tagger.annotator surroundings document state).result = .ok made ↔
      ∃ tags, Framed encoding document.text groups answers tags ∧
        made = some [("pos", List.zipWith
          (fun token tag => Span.partOfSpeech token (some tag) (coarse tag))
          groups.flatten tags)]) ∧
    (∀ tags, Framed encoding document.text groups answers tags →
      tags.length = groups.flatten.length) ∧
    groups.flatten.Sublist tokens := by
  intro groups answers coarse
  refine ⟨fun made => ?_, fun tags framed => framed.length_eq,
    Tier.flatten_reachedGroups_sublist sentencesOrdered tokensOrdered disjoint⟩
  rcases plan_eq_ok_iff.mp planned with ⟨_, _, _, _, table⟩
  have filtered : ((Tier.group sentences tokens).map (·.2)).filter (· ≠ []) = groups :=
    filter_group_ne_nil tokensOrdered sentencesOrdered
  have flat : ((Tier.group sentences tokens).map (·.2)).flatten = groups.flatten := by
    rw [← List.flatten_filter_ne_nil, filtered]
  constructor
  · intro returned
    rcases framed_of_annotator tokensThere sentencesThere returned with
      ⟨_, _, tags, same, sameKnown, framed, rfl⟩
    obtain rfl := Except.ok.inj (planned.symm.trans same)
    obtain rfl := Except.ok.inj (known.symm.trans sameKnown)
    rw [filtered] at framed
    exact ⟨tags, framed, by rw [flat, pair_eq_zipWith, table]⟩
  · rintro ⟨tags, framed, rfl⟩
    rw [← filtered] at framed
    rw [annotator_of_framed tokensThere sentencesThere planned startable known working framed,
      flat, pair_eq_zipWith, table]

/-- A sentence without tokens between two others, and an output that cannot be read to
its end. -/
theorem annotator_pairs_framed_around_gap :
    let tagger : Tagger := {
      options := { encoding := some "utf8".toList, command := ["tagger".toList] }
      choice := { template := some ['m'], language := some "en".toList }
      table := none }
    let output := "Hi\tUH\n\nJoe\t NNP \n.\t.\n\n".toList.flatMap Encoding.utf8.encodeCharacter
    let surroundings : Surroundings := {
      files := [([['m']], .file [] false)]
      directory := []
      program := { output := Bytes.lineWise output, failsAtEnd := true } }
    let hi : Span := ⟨0, 2, none, none, .token⟩
    let joe : Span := ⟨3, 6, none, none, .token⟩
    let stop : Span := ⟨7, 8, none, none, .token⟩
    let tokens : Tier := [hi, joe, stop]
    let sentences : Tier := [⟨0, 2, none, none, .sentence⟩, ⟨2, 3, none, none, .sentence⟩,
      ⟨3, 8, none, none, .sentence⟩]
    let document : Document := {
      text := "Hi Joe .".toList
      tiers := [("tokens", tokens), ("sentences", sentences)] }
    let pos : Tier := [⟨0, 2, some "UH".toList, none, .partOfSpeech hi (some ['X'])⟩,
      ⟨3, 6, some "NNP".toList, none, .partOfSpeech joe (some "PROPN".toList)⟩,
      ⟨7, 8, some ['.'], none, .partOfSpeech stop (some "PUNCT".toList)⟩]
    let answers := (LineStream.ofPieces .utf8 true (Bytes.lineWise output)).answers
    (tagger.annotator surroundings document {}).result = .ok (some [("pos", pos)]) ∧
      (∃ tags, Framed .utf8 document.text (sentences.reachedGroups tokens) answers tags) ∧
      (sentences.reachedGroups tokens).flatten.Sublist tokens := by
  intro tagger output surroundings hi joe stop tokens sentences document pos answers
  have result : (tagger.annotator surroundings document {}).result =
      .ok (some [("pos", pos)]) := rfl
  let plan : Plan := {
    model := ⟨['m'], "en".toList, some "default".toList⟩
    encoding := "utf8".toList
    table := tagger.tableFor "en".toList
    command := ["tagger".toList, ['m']] }
  have planned : tagger.plan surroundings document.language = .ok plan := rfl
  have tokensThere : document.tiers.get? "tokens" = some tokens := rfl
  have sentencesThere : document.tiers.get? "sentences" = some sentences := rfl
  have known : Encoding.named plan.encoding = .ok .utf8 := rfl
  have tokensOrdered : tokens.StartsOrdered := by simp [Tier.StartsOrdered, tokens, hi, joe, stop]
  have sentencesOrdered : sentences.StartsOrdered := by simp [Tier.StartsOrdered, sentences]
  have framing := annotator_pairs_framed {} tokensThere sentencesThere tokensOrdered
    sentencesOrdered (Tier.disjoint_of_hasOverlaps sentencesOrdered rfl) planned rfl known rfl
  rcases (framing.1 _).mp result with ⟨tags, framed, _⟩
  exact ⟨result, ⟨tags, framed⟩, framing.2.2⟩

end

end Tagger

end Standoff
