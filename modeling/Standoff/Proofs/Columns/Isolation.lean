import Standoff.Proofs.Columns.Construction

/-! What a cell that holds no tag costs. Its sentence loses the entities of its column, and
one warning says so. The text, the tokens, the sentences and all other entities are the
same for other tags over the same forms. -/

namespace Standoff.Columns

/-! ## Columns of tags -/

inductive Column where
  | outer
  | embedded

namespace Column

def wanted (options : Options) : Column → Bool
  | .outer => options.entities
  | .embedded => options.embedded

def cells (sentence : Sentence) : Column → List (Option Text)
  | .outer => outerCells sentence
  | .embedded => embeddedCells sentence

def tierName : Column → String
  | .outer => "nes"
  | .embedded => "nes.embedded"

def entities : Column → Annotated → Tier
  | .outer => (·.entities)
  | .embedded => (·.embedded)

theorem length_cells (sentence : Sentence) (column : Column) :
    (column.cells sentence).length = sentence.length := by
  cases column <;> exact List.length_map _

theorem get?_tiersOf (options : Options) (annotated : List Annotated) (column : Column) :
    (tiersOf options annotated).get? column.tierName =
      if column.wanted options then some (annotated.flatMap column.entities) else none := by
  cases options with
  | mk separator comments language entities embedded =>
      cases column <;> cases entities <;> cases embedded <;> rfl

/-- What is reported of a column of the sentence of an index: the first cell that holds
no tag. -/
def warnings (options : Options) (source : Text) (index : Nat) (sentence : Sentence)
    (column : Column) : List Notice :=
  if column.wanted options then
    ((Tag.firstUnreadable (column.cells sentence)).map (Notice.entitiesSkipped source index)).toList
  else []

end Column

def warnings (options : Options) (source : Text) (index : Nat) (sentence : Sentence) :
    List Notice :=
  Column.outer.warnings options source index sentence ++
    Column.embedded.warnings options source index sentence

/-! ## One sentence -/

/-- An entity inside a sentence that reaches from the first token of its range to the
last one. -/
structure Placed (span : Span) (tokens : Tier) (entity : Span) : Prop where
  inside : span.contains entity
  range : ∃ (details : EntityDetails) (first stop : Nat), entity.role = .entity details ∧
    details.tokenRange = some ((first : Int), (stop : Int)) ∧ first < stop ∧
    (∃ token, tokens[first]? = some token ∧ token.start = entity.start) ∧
    ∃ token, tokens[stop - 1]? = some token ∧ token.stop = entity.stop

theorem Decoded.unique {text : Text} {tokens : Tier} {cells : List (Option Text)}
    {entities others : Tier} (decoded : Decoded text tokens cells entities)
    (othersDecoded : Decoded text tokens cells others) : entities = others := by
  by_cases readable : ∀ cell ∈ cells, Tag.Readable cell
  · exact Except.ok.inj ((decoded.read readable).symm.trans (othersDecoded.read readable))
  · simp only [not_forall, exists_prop] at readable
    rw [decoded.dropped readable, othersDecoded.dropped readable]

/-- What a sentence contributes to the tiers, and what is reported of it. -/
structure Reads (options : Options) (text source : Text) (place : Place) (one : Annotated) :
    Prop where
  stands : text.StandsAt place.offset (lineText place.sentence)
  tokens : one.tokens = tokensFrom place.offset place.sentence
  sentence : one.sentence = sentenceAt place.offset place.sentence
  column : ∀ column : Column, ∃ reported,
    columnAt (column.wanted options) text source place (column.cells place.sentence) =
      .ok (column.entities one, reported)
  notices : one.notices = warnings options source place.index place.sentence

theorem decoded_of_columnAt {options : Options} {text source : Text} {place : Place}
    {column : Column} {result : List Span × List Notice}
    (stands : text.StandsAt place.offset (lineText place.sentence))
    (read : columnAt (column.wanted options) text source place (column.cells place.sentence) =
      .ok result) :
    (column.wanted options → Decoded text (tokensFrom place.offset place.sentence)
      (column.cells place.sentence) result.1) ∧
    result.2 = column.warnings options source place.index place.sentence := by
  rw [columnAt] at read
  rw [Column.warnings]
  split at read
  · rename_i wanted
    rcases columnEntities_of_line source place.index stands
      (column.length_cells place.sentence) with ⟨entities, decoded, made⟩
    cases read.symm.trans made
    exact ⟨fun _ => decoded, (if_pos wanted).symm⟩
  · rename_i unwanted
    cases read
    exact ⟨fun wanted => absurd wanted unwanted, (if_neg unwanted).symm⟩

theorem reads_of_annotateSentence {options : Options} {text source : Text} {place : Place}
    {one : Annotated} (stands : text.StandsAt place.offset (lineText place.sentence))
    (nonempty : place.sentence ≠ [])
    (annotates : annotateSentence options text source place.index place.offset place.sentence =
      .ok one) : Reads options text source place one := by
  rcases (annotateSentence_eq_ok_iff stands nonempty).mp annotates with
    ⟨outer, inner, outerRead, innerRead, rfl⟩
  refine ⟨stands, rfl, rfl, ?_, ?_⟩
  · intro column
    cases column with
    | outer => exact ⟨outer.2, outerRead⟩
    | embedded => exact ⟨inner.2, innerRead⟩
  · rw [warnings, ← (@decoded_of_columnAt options _ _ _ .outer _ stands outerRead).2,
      ← (@decoded_of_columnAt options _ _ _ .embedded _ stands innerRead).2]

namespace Reads

variable {options : Options} {text source : Text} {place : Place} {one : Annotated}

theorem decoded (reads : Reads options text source place one) {column : Column}
    (wanted : column.wanted options) :
    Decoded text one.tokens (column.cells place.sentence) (column.entities one) := by
  rcases reads.column column with ⟨_, read⟩
  rw [reads.tokens]
  exact (decoded_of_columnAt reads.stands read).1 wanted

theorem onLine (reads : Reads options text source place one) (column : Column) :
    OnLine place (column.entities one) := by
  rcases reads.column column with ⟨_, read⟩
  exact onLine_of_columnAt read

theorem onLine_tokens (reads : Reads options text source place one) :
    OnLine place one.tokens := by
  rw [reads.tokens]
  exact onLine_tokensFrom place

theorem placed (reads : Reads options text source place one) {column : Column} {entity : Span}
    (member : entity ∈ column.entities one) : Placed one.sentence one.tokens entity := by
  have start := (reads.onLine column).start_ge entity member
  have stop := (reads.onLine column).stop_lt entity member
  rcases reads.column column with ⟨_, read⟩
  rw [reads.sentence, reads.tokens]
  constructor
  · rw [Tag.contains_iff]
    simp only [sentenceAt]
    omega
  · rw [columnAt] at read
    split at read
    · rcases columnEntities_eq_ok_iff.mp read with ⟨entities, _⟩ | ⟨_, _, none, _⟩
      · rcases Segment.exists_makes entities member with ⟨_, segment, _, proper, makes, _⟩
        exact ⟨segment.details, segment.first, segment.stop, makes.role, rfl, proper.nonempty,
          makes.start, makes.stop⟩
      · rw [none] at member
        cases member
    · have none : column.entities one = [] := (congrArg Prod.fst (Except.ok.inj read)).symm
      rw [none] at member
      cases member

end Reads

/-! ## All sentences -/

theorem containedIn_of_onLine {places : List Place} {annotated : List Annotated}
    {part : Annotated → Tier}
    (all : List.Forall₂ (fun place one =>
      one.sentence = sentenceAt place.offset place.sentence ∧ OnLine place (part one))
        places annotated)
    (separated : places.Pairwise fun place later =>
      place.offset + (lineText place.sentence).length < later.offset)
    {one : Annotated} (member : one ∈ annotated) :
    Tier.containedIn (annotated.flatMap part) one.sentence = part one := by
  have apart : annotated.Pairwise fun one later =>
      (∀ span ∈ part later, ¬ one.sentence.contains span) ∧
        ∀ span ∈ part one, ¬ later.sentence.contains span := by
    refine List.pairwise_of_forall₂ all separated ?_
    rintro place later one other ⟨here, onLine⟩ ⟨there, otherOnLine⟩ before
    simp only [here, there, Tag.contains_iff, sentenceAt]
    constructor
    · intro span inOther
      have start := otherOnLine.start_ge span inOther
      have forward := otherOnLine.separate.forward span inOther
      omega
    · intro span inOne
      have stop := onLine.stop_lt span inOne
      have forward := onLine.separate.forward span inOne
      omega
  have inside : ∀ span ∈ part one, one.sentence.contains span := by
    rcases List.exists_left_of_forall₂ all member with ⟨place, _, here, onLine⟩
    intro span inOne
    have start := onLine.start_ge span inOne
    have stop := onLine.stop_lt span inOne
    simp only [here, Tag.contains_iff, sentenceAt]
    omega
  exact @List.filter_flatMap_eq _ _ annotated part (fun one => one.sentence.contains) apart one
    member inside

/-! ## The document of a corpus -/

theorem flatMap_containedIn {annotated : List Annotated} {part : Annotated → Tier}
    (each : ∀ one ∈ annotated,
      Tier.containedIn (annotated.flatMap part) one.sentence = part one) :
    (annotated.map (·.sentence)).flatMap (Tier.containedIn (annotated.flatMap part)) =
      annotated.flatMap part := by
  rw [List.flatMap_map]
  exact List.flatMap_congr each

theorem reads_of_documentOf {options : Options} {source : Text} {sentences : List Sentence}
    {document : Document} {notices : List Notice}
    (nonempty : ∀ sentence ∈ sentences, sentence ≠ [])
    (made : documentOf options source sentences = .ok (document, notices)) :
    ∃ annotated : List Annotated,
      List.Forall₂ (Reads options document.text source) (placesFrom 0 0 sentences) annotated ∧
      document.tiers = tiersOf options annotated ∧
      notices = annotated.flatMap (·.notices) ++
        [.corpusRead source annotated.length (annotated.flatMap (·.tokens)).length] := by
  rcases exists_annotated made with ⟨annotated, each, _, tiers, reported⟩
  refine ⟨annotated, each.imp ?_, tiers, reported⟩
  rintro place one ⟨member, stands, annotates⟩
  exact reads_of_annotateSentence stands (nonempty _ member) annotates

theorem forall₂_sentences {corresponds : Place → Annotated → Prop}
    {holds : Sentence → Span → Prop} {sentences : List Sentence} {annotated : List Annotated}
    (all : List.Forall₂ corresponds (placesFrom 0 0 sentences) annotated)
    (carry : ∀ place, ∀ one ∈ annotated, corresponds place one →
      holds place.sentence one.sentence) :
    List.Forall₂ holds sentences (annotated.map (·.sentence)) := by
  have known := (List.forall₂_and_left _ _).mpr ⟨fun one member => member, all.flip⟩
  rw [← map_sentence_placesFrom 0 0 sentences, List.forall₂_map_left_iff,
    List.forall₂_map_right_iff]
  exact (known.imp fun one place related => carry place one related.1 related.2).flip

/-- The parts of a document that belong to each sentence, and what is reported. -/
structure Isolated (options : Options) (source : Text) (sentences : List Sentence)
    (document : Document) (notices : List Notice) (spans tokens : Tier) : Prop where
  foundSpans : document.tiers.get? "sentences" = some spans
  foundTokens : document.tiers.get? "tokens" = some tokens
  tokens_eq : tokens = spans.flatMap tokens.containedIn
  forms : List.Forall₂ (fun sentence span =>
    (tokens.containedIn span).map (Span.covered document.text) = sentence.map (·.form))
      sentences spans
  /-- A tier of entities is put together from those of each sentence. -/
  entities : ∀ column : Column, column.wanted options → ∃ tier,
    document.tiers.get? column.tierName = some tier ∧
    tier = spans.flatMap tier.containedIn ∧
    List.Forall₂ (fun sentence span =>
      Decoded document.text (tokens.containedIn span) (column.cells sentence)
        (tier.containedIn span) ∧
      ∀ entity ∈ tier.containedIn span, Placed span (tokens.containedIn span) entity)
      sentences spans
  unread : ∀ column : Column, ¬ column.wanted options →
    document.tiers.get? column.tierName = none
  notices : notices = (sentences.zipIdx.flatMap fun numbered =>
      warnings options source numbered.2 numbered.1) ++
    [.corpusRead source sentences.length tokens.length]

theorem isolated_of_documentOf {options : Options} {source : Text} {sentences : List Sentence}
    {document : Document} {notices : List Notice}
    (nonempty : ∀ sentence ∈ sentences, sentence ≠ [])
    (made : documentOf options source sentences = .ok (document, notices)) :
    ∃ spans tokens, Isolated options source sentences document notices spans tokens := by
  rcases reads_of_documentOf nonempty made with ⟨annotated, all, tiers, reported⟩
  have separated := (placesFrom_separated 0 0 sentences).2
  have ownTokens : ∀ one ∈ annotated,
      Tier.containedIn (annotated.flatMap (·.tokens)) one.sentence = one.tokens :=
    fun one => containedIn_of_onLine
      (all.imp fun place one reads => ⟨reads.sentence, reads.onLine_tokens⟩) separated
  have ownEntities : ∀ column : Column, ∀ one ∈ annotated,
      Tier.containedIn (annotated.flatMap column.entities) one.sentence = column.entities one :=
    fun column one => containedIn_of_onLine
      (all.imp fun place one reads => ⟨reads.sentence, reads.onLine column⟩) separated
  have count : annotated.length = sentences.length := by
    rw [← all.length_eq, length_placesFrom]
  refine ⟨annotated.map (·.sentence), annotated.flatMap (·.tokens), ?_, ?_, ?_, ?_, ?_, ?_, ?_⟩
  · rw [tiers]
    rfl
  · rw [tiers]
    rfl
  · exact (flatMap_containedIn ownTokens).symm
  · refine forall₂_sentences all ?_
    intro place one member reads
    rw [ownTokens one member, reads.tokens, covered_tokensFrom reads.stands]
  · intro column wanted
    refine ⟨_, by rw [tiers, column.get?_tiersOf, if_pos wanted],
      (flatMap_containedIn (ownEntities column)).symm, forall₂_sentences all ?_⟩
    intro place one member reads
    rw [ownTokens one member, ownEntities column one member]
    exact ⟨reads.decoded wanted, fun entity => reads.placed⟩
  · intro column unwanted
    rw [tiers, column.get?_tiersOf, if_neg unwanted]
  · have warned : annotated.map (·.notices) = sentences.zipIdx.map fun numbered =>
        warnings options source numbered.2 numbered.1 := by
      rw [← map_placesFrom 0 0, List.map_map]
      exact List.map_eq_of_forall₂ all fun reads => reads.notices
    have reportedEach : annotated.flatMap (·.notices) = sentences.zipIdx.flatMap fun numbered =>
        warnings options source numbered.2 numbered.1 :=
      congrArg List.flatten warned
    rw [reported, count, reportedEach]

/-! ## Other tags over the same forms -/

/-- The same forms in the same sentences. -/
abbrev SameForms (sentences others : List Sentence) : Prop :=
  sentences.map (·.map (·.form)) = others.map (·.map (·.form))

theorem lineText_congr {sentence other : Sentence}
    (same : sentence.map (·.form) = other.map (·.form)) : lineText sentence = lineText other := by
  have spelled : ∀ words : Sentence, lineText words =
      (words.map (·.form)).flatMap fun form => form ++ [' '] := by
    intro words
    rw [List.flatMap_map, lineText]
  rw [spelled, spelled, same]

theorem corpusText_congr {sentences others : List Sentence}
    (same : SameForms sentences others) : corpusText sentences = corpusText others := by
  have spelled : ∀ corpus : List Sentence, corpusText corpus =
      (corpus.map (·.map (·.form))).flatMap fun forms =>
        (forms.flatMap fun form => form ++ [' ']) ++ ['\n'] := by
    intro corpus
    simp only [List.flatMap_map]
    rfl
  rw [spelled, spelled, same]

theorem tokensFrom_congr {sentence other : Sentence}
    (same : sentence.map (·.form) = other.map (·.form)) (offset : Nat) :
    tokensFrom offset sentence = tokensFrom offset other := by
  induction sentence generalizing other offset with
  | nil => rw [List.map_eq_nil_iff.mp same.symm]
  | cons word rest induction =>
      rcases List.map_eq_cons_iff.mp same.symm with ⟨otherWord, otherRest, rfl, form, later⟩
      rw [tokensFrom, tokensFrom, form, induction later.symm]

theorem partAt_congr {sentences others : List Sentence} (same : SameForms sentences others)
    (index offset : Nat) :
    (placesFrom index offset sentences).map partAt =
      (placesFrom index offset others).map partAt := by
  induction sentences generalizing others index offset with
  | nil => rw [List.map_eq_nil_iff.mp same.symm]
  | cons sentence rest induction =>
      rcases List.map_eq_cons_iff.mp same.symm with ⟨other, otherRest, rfl, forms, later⟩
      have line := lineText_congr forms
      simp only [placesFrom, List.map_cons, partAt, sentenceAt, sentenceText_eq, line,
        tokensFrom_congr forms, induction later.symm]

/-- A second document over the same forms. It has the same text, tokens and sentences, and
where the cells of a column agree in a sentence, the same entities. -/
structure Unaffected (sentences others : List Sentence) (document other : Document) : Prop where
  text : other.text = document.text
  tokens : other.tiers.get? "tokens" = document.tiers.get? "tokens"
  spans : other.tiers.get? "sentences" = document.tiers.get? "sentences"
  entities : ∀ (column : Column) (spans tier otherTier : Tier),
    document.tiers.get? "sentences" = some spans →
    document.tiers.get? column.tierName = some tier →
    other.tiers.get? column.tierName = some otherTier →
    ∀ (index : Nat) (sentence otherSentence : Sentence) (span : Span),
      sentences[index]? = some sentence → others[index]? = some otherSentence →
      spans[index]? = some span → column.cells sentence = column.cells otherSentence →
      tier.containedIn span = otherTier.containedIn span

namespace Isolated

variable {options : Options} {source : Text} {sentences : List Sentence} {document : Document}
  {notices : List Notice} {spans tokens : Tier} {column : Column} {tier : Tier}

theorem wanted (isolated : Isolated options source sentences document notices spans tokens)
    (found : document.tiers.get? column.tierName = some tier) : column.wanted options := by
  by_contra unwanted
  cases found.symm.trans (isolated.unread column unwanted)

theorem decoded (isolated : Isolated options source sentences document notices spans tokens)
    (found : document.tiers.get? column.tierName = some tier) {index : Nat}
    {sentence : Sentence} {span : Span} (foundSentence : sentences[index]? = some sentence)
    (foundSpan : spans[index]? = some span) :
    Decoded document.text (tokens.containedIn span) (column.cells sentence)
      (tier.containedIn span) := by
  rcases isolated.entities column (isolated.wanted found) with ⟨same, foundSame, _, all⟩
  cases found.symm.trans foundSame
  rcases List.exists_getElem?_of_forall₂ all foundSentence with ⟨_, foundOwn, decoded, _⟩
  cases foundSpan.symm.trans foundOwn
  exact decoded

end Isolated

theorem unaffected_of_sameForms {options otherOptions : Options} {source otherSource : Text}
    {sentences others : List Sentence} {document other : Document}
    {notices otherNotices : List Notice}
    (nonempty : ∀ sentence ∈ sentences, sentence ≠ [])
    (othersNonempty : ∀ sentence ∈ others, sentence ≠ [])
    (made : documentOf options source sentences = .ok (document, notices))
    (otherMade : documentOf otherOptions otherSource others = .ok (other, otherNotices))
    (same : SameForms sentences others) : Unaffected sentences others document other := by
  have constructed := constructed_of_documentOf nonempty made
  have otherConstructed := constructed_of_documentOf othersNonempty otherMade
  have sameText : other.text = document.text := by
    rw [otherConstructed.text, constructed.text]
    exact (corpusText_congr same).symm
  have tiers := tiers_of_documentOf nonempty made
  have otherTiers := tiers_of_documentOf othersNonempty otherMade
  rw [partAt_congr same] at tiers
  have sameTokens := otherTiers.1.trans tiers.1.symm
  have sameSpans := otherTiers.2.trans tiers.2.symm
  rcases isolated_of_documentOf nonempty made with ⟨spans, tokens, isolated⟩
  rcases isolated_of_documentOf othersNonempty otherMade with
    ⟨otherSpans, otherTokens, otherIsolated⟩
  refine ⟨sameText, sameTokens, sameSpans, ?_⟩
  intro column spans tier otherTier foundSpans foundTier foundOther index sentence otherSentence
    span foundSentence foundOtherSentence foundSpan sameCells
  cases foundSpans.symm.trans isolated.foundSpans
  cases otherIsolated.foundSpans.symm.trans (sameSpans.trans isolated.foundSpans)
  cases otherIsolated.foundTokens.symm.trans (sameTokens.trans isolated.foundTokens)
  have here := isolated.decoded foundTier foundSentence foundSpan
  have there := otherIsolated.decoded foundOther foundOtherSentence foundSpan
  rw [sameText, ← sameCells] at there
  exact here.unique there

/-- Lines in format make a document whatever their tags. Where a cell holds no tag, the
sentence loses the entities of that column with one warning, and another document over the
same forms differs only in the entities of the cells that differ. -/
theorem bad_tags_contained {options : Options} {source : Text} {lines : List Text}
    {sentences : List Sentence} (split : readSentences options source lines = .ok sentences) :
    ∃ document notices spans tokens,
      readLines options lines source = .ok (document, notices) ∧
      Isolated options source sentences document notices spans tokens ∧
      ∀ (otherOptions : Options) (otherSource : Text) (otherLines : List Text)
        (others : List Sentence),
        readSentences otherOptions otherSource otherLines = .ok others →
        SameForms sentences others →
        ∃ other otherNotices,
          readLines otherOptions otherLines otherSource = .ok (other, otherNotices) ∧
          Unaffected sentences others document other := by
  have nonempty := nonempty_of_readSentences split
  rcases @exists_documentOf options source sentences nonempty with ⟨document, notices, made⟩
  rcases isolated_of_documentOf nonempty made with ⟨spans, tokens, isolated⟩
  refine ⟨document, notices, spans, tokens, ?_, isolated, ?_⟩
  · rw [readLines, split]
    exact made
  · intro otherOptions otherSource otherLines others otherSplit same
    have othersNonempty := nonempty_of_readSentences otherSplit
    rcases @exists_documentOf otherOptions otherSource others othersNonempty with
      ⟨other, otherNotices, otherMade⟩
    refine ⟨other, otherNotices, ?_,
      unaffected_of_sameForms nonempty othersNonempty made otherMade same⟩
    rw [readLines, otherSplit]
    exact otherMade

/-- A cell without a tag in each column, and the same forms under tags that can be read. -/
theorem bad_tags_contained_crosswise :
    ∃ document notices other otherNotices, ∃ spans tokens outer embedded : Tier,
      ∃ otherOuter otherEmbedded : Tier, ∃ first second,
      readLines { embedded := true } ["a B-P B-Q\n".toList, "b X O\n".toList, [],
        "c B-P Y\n".toList] = .ok (document, notices) ∧
      readLines { embedded := true } ["a O B-Q\n".toList, "b I-P O\n".toList, [],
        "c B-P O\n".toList] = .ok (other, otherNotices) ∧
      document.tiers.get? "sentences" = some spans ∧
      spans[0]? = some first ∧ spans[1]? = some second ∧
      document.tiers.get? "tokens" = some tokens ∧
      notices = [.entitiesSkipped noSource 0 ⟨some ['X'], 1⟩,
        .entitiesSkipped noSource 1 ⟨some ['Y'], 0⟩, .corpusRead noSource 2 tokens.length] ∧
      document.tiers.get? "nes" = some outer ∧
      document.tiers.get? "nes.embedded" = some embedded ∧
      other.tiers.get? "nes" = some otherOuter ∧
      other.tiers.get? "nes.embedded" = some otherEmbedded ∧
      outer.containedIn first = [] ∧ embedded.containedIn second = [] ∧
      outer.containedIn second = otherOuter.containedIn second ∧
      embedded.containedIn first = otherEmbedded.containedIn first := by
  let sentences : List Sentence :=
    [[⟨['a'], ['B', '-', 'P'], some ['B', '-', 'Q']⟩, ⟨['b'], ['X'], some ['O']⟩],
      [⟨['c'], ['B', '-', 'P'], some ['Y']⟩]]
  let others : List Sentence :=
    [[⟨['a'], ['O'], some ['B', '-', 'Q']⟩, ⟨['b'], ['I', '-', 'P'], some ['O']⟩],
      [⟨['c'], ['B', '-', 'P'], some ['O']⟩]]
  rcases bad_tags_contained (show readSentences { embedded := true } noSource
    ["a B-P B-Q\n".toList, "b X O\n".toList, [], "c B-P Y\n".toList] = .ok sentences from rfl) with
    ⟨document, notices, spans, tokens, read, isolated, runs⟩
  rcases runs { embedded := true } noSource
    ["a O B-Q\n".toList, "b I-P O\n".toList, [], "c B-P O\n".toList] others rfl rfl with
    ⟨other, otherNotices, otherRead, unaffected⟩
  rcases isolated.entities .outer rfl with ⟨outer, foundOuter, _⟩
  rcases isolated.entities .embedded rfl with ⟨embedded, foundEmbedded, _⟩
  have tiers := (congrArg (·.1.tiers) (Except.ok.inj otherRead)).symm
  rcases List.exists_getElem?_of_forall₂ isolated.forms (show sentences[0]? = some _ from rfl)
    with ⟨first, foundFirst, _⟩
  rcases List.exists_getElem?_of_forall₂ isolated.forms (show sentences[1]? = some _ from rfl)
    with ⟨second, foundSecond, _⟩
  have firstOuter := isolated.decoded foundOuter (show sentences[0]? = some _ from rfl) foundFirst
  have secondEmbedded :=
    isolated.decoded foundEmbedded (show sentences[1]? = some _ from rfl) foundSecond
  have foundOtherOuter := congrArg (Dictionary.get? · "nes") tiers
  have foundOtherEmbedded := congrArg (Dictionary.get? · "nes.embedded") tiers
  exact ⟨document, notices, other, otherNotices, spans, tokens, outer, embedded, _, _, first,
    second, read, otherRead, isolated.foundSpans, foundFirst, foundSecond, isolated.foundTokens,
    isolated.notices, foundOuter, foundEmbedded, foundOtherOuter, foundOtherEmbedded,
    firstOuter.dropped ⟨some ['X'], .tail _ (.head _), Tag.parse?_eq_none_iff.mp rfl⟩,
    secondEmbedded.dropped ⟨some ['Y'], .head _, Tag.parse?_eq_none_iff.mp rfl⟩,
    unaffected.entities .outer _ _ _ isolated.foundSpans foundOuter foundOtherOuter 1 _ _ _
      rfl rfl foundSecond rfl,
    unaffected.entities .embedded _ _ _ isolated.foundSpans foundEmbedded foundOtherEmbedded
      0 _ _ _ rfl rfl foundFirst rfl⟩

end Standoff.Columns
