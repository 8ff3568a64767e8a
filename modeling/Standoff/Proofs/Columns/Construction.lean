import Standoff.Proofs.Columns.Regrouping
import Standoff.Proofs.Containment
import Standoff.Proofs.Overlap

/-! How the document of a corpus is made up. Lines that are in format always make a
document. Its tokens and sentences stand where their words stand in the text, and each of
its tiers is in order and without overlaps, because what a sentence contributes to a tier
stays on the line of the sentence. -/

namespace Standoff.Columns

/-! ## Sentences that are read -/

theorem nonempty_of_splitSentences (lines : List Line) :
    ∀ sentence ∈ (splitSentences lines).2, sentence ≠ [] := by
  induction lines with
  | nil => exact nofun
  | cons line rest induction =>
      cases line with
      | word word => exact induction
      | skipped => exact induction
      | blank =>
          simp only [splitSentences]
          split
          · exact induction
          · rename_i nonempty
            exact List.forall_mem_cons.mpr ⟨nonempty, induction⟩

theorem nonempty_of_readSentences {options : Options} {source : Text} {lines : List Text}
    {sentences : List Sentence} (split : readSentences options source lines = .ok sentences) :
    ∀ sentence ∈ sentences, sentence ≠ [] := by
  rcases Result.map_eq_ok_iff.mp split with ⟨read, _, rfl⟩
  have later := nonempty_of_splitSentences read
  simp only [sentencesOf]
  split
  · exact later
  · rename_i nonempty
    exact List.forall_mem_cons.mpr ⟨nonempty, later⟩

/-! ## Spans on a line -/

/-- Spans one behind the other on the line of a sentence. -/
structure OnLine (place : Place) (spans : Tier) : Prop where
  separate : spans.Separate
  start_ge : ∀ span ∈ spans, place.offset ≤ span.start
  stop_lt : ∀ span ∈ spans, span.stop < place.offset + (lineText place.sentence).length

theorem onLine_nil (place : Place) : OnLine place [] := ⟨⟨nofun, .nil⟩, nofun, nofun⟩

/-- What the sentences of a corpus contribute, each on its own line, does not overlap. -/
theorem separate_of_onLine {α : Type} {places : List Place} {contributions : List α}
    {part : α → Tier}
    (all : List.Forall₂ (fun place one => OnLine place (part one)) places contributions)
    (separated : places.Pairwise fun place later =>
      place.offset + (lineText place.sentence).length < later.offset) :
    Tier.Separate (contributions.flatMap part) where
  forward span member := by
    rcases List.mem_flatMap.mp member with ⟨one, inContributions, inPart⟩
    rcases List.exists_left_of_forall₂ all inContributions with ⟨place, _, onLine⟩
    exact onLine.separate.forward span inPart
  apart := by
    rw [List.pairwise_flatMap]
    constructor
    · intro one inContributions
      rcases List.exists_left_of_forall₂ all inContributions with ⟨place, _, onLine⟩
      exact onLine.separate.apart
    · refine List.pairwise_of_forall₂ all separated ?_
      intro place later one other onLine laterOnLine before span inPart next inLater
      have here := onLine.stop_lt span inPart
      have there := laterOnLine.start_ge next inLater
      omega

theorem onLine_tokensFrom (place : Place) :
    OnLine place (tokensFrom place.offset place.sentence) where
  separate := {
    forward := fun _ member => (token_bounds member).2.1
    apart := (tokensFrom_separated place.offset place.sentence).imp Nat.le_of_lt }
  start_ge _ member := (token_bounds member).1
  stop_lt _ member := (token_bounds member).2.2

theorem onLine_sentenceAt {place : Place} (nonempty : place.sentence ≠ []) :
    OnLine place [sentenceAt place.offset place.sentence] := by
  have positive := lineText_pos nonempty
  refine ⟨⟨?_, List.pairwise_singleton _ _⟩, ?_, ?_⟩ <;>
    simp only [List.forall_mem_singleton, sentenceAt] <;> omega

theorem onLine_of_entities {text : Text} {place : Place} {cells : List (Option Text)}
    {entities : List Span}
    (read : Segment.entities text (tokensFrom place.offset place.sentence) cells =
      .ok entities) : OnLine place entities := by
  rcases Segment.entities_eq_ok_iff.mp read with ⟨_, tags, _, made⟩
  have segmentation := Segment.segmentation_ofTags tags
  have tokensApart := tokensFrom_separated place.offset place.sentence
  refine ⟨⟨?_, ?_⟩, ?_, ?_⟩
  · intro entity member
    rcases Segment.exists_makes read member with ⟨_, segment, _, _, _, within⟩
    exact within.1
  · refine List.pairwise_of_forall₂ made
      (segmentation.ordered.imp_of_mem fun member _ before => And.intro member before) ?_
    intro segment later entity other entityMade otherMade known
    rcases (Segment.makes_of_entity? entityMade).1.stop with ⟨last, foundLast, stop⟩
    rcases (Segment.makes_of_entity? otherMade).1.start with ⟨first, foundFirst, start⟩
    have nonempty := (segmentation.proper segment known.1).nonempty
    have before : segment.stop - 1 < later.first := by omega
    rcases List.getElem?_eq_some_iff.mp foundLast with ⟨lastBound, rfl⟩
    rcases List.getElem?_eq_some_iff.mp foundFirst with ⟨firstBound, rfl⟩
    have := List.pairwise_iff_getElem.mp tokensApart _ _ lastBound firstBound before
    omega
  · intro entity member
    rcases Segment.exists_makes read member with ⟨_, segment, _, _, makes, _⟩
    rcases makes.start with ⟨first, found, start⟩
    have bounds := token_bounds (List.mem_of_getElem? found)
    omega
  · intro entity member
    rcases Segment.exists_makes read member with ⟨_, segment, _, _, makes, _⟩
    rcases makes.stop with ⟨last, found, stop⟩
    have bounds := token_bounds (List.mem_of_getElem? found)
    omega

/-! ## The columns of a sentence -/

theorem exists_columnAt (wanted : Bool) {text : Text} (source : Text) {place : Place}
    {cells : List (Option Text)} (stands : text.StandsAt place.offset (lineText place.sentence))
    (count : cells.length = place.sentence.length) :
    ∃ column, columnAt wanted text source place cells = .ok column := by
  cases wanted with
  | false => exact ⟨_, rfl⟩
  | true =>
      rcases columnEntities_of_line source place.index stands count with ⟨entities, _, made⟩
      exact ⟨_, made⟩

theorem onLine_of_columnAt {wanted : Bool} {text source : Text} {place : Place}
    {cells : List (Option Text)} {column : List Span × List Notice}
    (read : columnAt wanted text source place cells = .ok column) : OnLine place column.1 := by
  cases wanted with
  | false =>
      cases read
      exact onLine_nil place
  | true =>
      rcases columnEntities_eq_ok_iff.mp read with ⟨entities, _⟩ | ⟨_, _, none, _⟩
      · exact onLine_of_entities entities
      · rw [none]
        exact onLine_nil place

/-! ## What a sentence contributes -/

/-- What an annotated sentence contributes stays on the line of the sentence. -/
structure Lined (place : Place) (one : Annotated) : Prop where
  tokens : one.tokens = tokensFrom place.offset place.sentence
  sentence : one.sentence = sentenceAt place.offset place.sentence
  entities : OnLine place one.entities
  embedded : OnLine place one.embedded

section

variable {options : Options} {text source : Text} {place : Place}
  (stands : text.StandsAt place.offset (lineText place.sentence))
  (nonempty : place.sentence ≠ [])

include stands nonempty

theorem lined_of_annotateSentence {one : Annotated}
    (annotates : annotateSentence options text source place.index place.offset place.sentence =
      .ok one) : Lined place one := by
  rcases (annotateSentence_eq_ok_iff stands nonempty).mp annotates with
    ⟨outer, inner, outerRead, innerRead, rfl⟩
  exact ⟨rfl, rfl, onLine_of_columnAt outerRead, onLine_of_columnAt innerRead⟩

theorem exists_annotateSentence :
    ∃ one, annotateSentence options text source place.index place.offset place.sentence =
      .ok one := by
  have outerCount : (outerCells place.sentence).length = place.sentence.length :=
    List.length_map _
  have innerCount : (embeddedCells place.sentence).length = place.sentence.length :=
    List.length_map _
  rcases exists_columnAt options.entities source stands outerCount with ⟨outer, outerRead⟩
  rcases exists_columnAt options.embedded source stands innerCount with ⟨inner, innerRead⟩
  exact ⟨_, (annotateSentence_eq_ok_iff stands nonempty).mpr
    ⟨outer, inner, outerRead, innerRead, rfl⟩⟩

end

/-! ## Whole corpora -/

theorem exists_documentOf {options : Options} {source : Text} {sentences : List Sentence}
    (nonempty : ∀ sentence ∈ sentences, sentence ≠ []) :
    ∃ document notices, documentOf options source sentences = .ok (document, notices) := by
  have each : ∀ place ∈ placesFrom 0 0 sentences, ∃ one, annotateSentence options
      (corpusText sentences) source place.index place.offset place.sentence = .ok one :=
    fun place member => exists_annotateSentence
      (standsAt_of_place (standsAt_corpus sentences) member)
      (nonempty _ (sentence_mem_of_place member))
  rcases List.exists_forall₂ each with ⟨annotated, all⟩
  exact ⟨_, _, Result.bind_eq_ok_iff.mpr ⟨annotated, annotateFrom_eq_ok_iff.mpr all, rfl⟩⟩

theorem lined_of_documentOf {options : Options} {source : Text} {sentences : List Sentence}
    {document : Document} {notices : List Notice}
    (nonempty : ∀ sentence ∈ sentences, sentence ≠ [])
    (made : documentOf options source sentences = .ok (document, notices)) :
    ∃ annotated : List Annotated,
      List.Forall₂ Lined (placesFrom 0 0 sentences) annotated ∧
      document.text = corpusText sentences ∧ document.tiers = tiersOf options annotated := by
  rcases exists_annotated made with ⟨annotated, each, text, tiers, _⟩
  refine ⟨annotated, each.imp ?_, text, tiers⟩
  rintro place one ⟨member, stands, annotates⟩
  exact lined_of_annotateSentence stands (nonempty _ member) annotates

theorem separate_of_lined {options : Options} {sentences : List Sentence}
    {annotated : List Annotated} (nonempty : ∀ sentence ∈ sentences, sentence ≠ [])
    (all : List.Forall₂ Lined (placesFrom 0 0 sentences) annotated) :
    ∀ tier ∈ (tiersOf options annotated).map (·.2), Tier.Separate tier := by
  have separated := (placesFrom_separated 0 0 sentences).2
  have known := (List.forall₂_and_left _ _).mpr
    ⟨fun place member => nonempty _ (sentence_mem_of_place member), all⟩
  have tokens : Tier.Separate (annotated.flatMap (·.tokens)) :=
    separate_of_onLine (all.imp fun place one lined =>
      lined.tokens ▸ onLine_tokensFrom place) separated
  have spans : Tier.Separate (annotated.flatMap fun one => [one.sentence]) :=
    separate_of_onLine (known.imp fun place one lined =>
      lined.2.sentence ▸ onLine_sentenceAt lined.1) separated
  have entities : Tier.Separate (annotated.flatMap (·.entities)) :=
    separate_of_onLine (all.imp fun place one lined => lined.entities) separated
  have embedded : Tier.Separate (annotated.flatMap (·.embedded)) :=
    separate_of_onLine (all.imp fun place one lined => lined.embedded) separated
  rw [← List.map_eq_flatMap] at spans
  intro tier member
  simp only [tiersOf, List.map_append, List.mem_append, List.map_cons, List.map_nil,
    List.mem_cons, List.not_mem_nil, or_false] at member
  rcases member with ((rfl | rfl) | inEntities) | inEmbedded
  · exact tokens
  · exact spans
  · split at inEntities
    · exact List.mem_singleton.mp inEntities ▸ entities
    · cases inEntities
  · split at inEmbedded
    · exact List.mem_singleton.mp inEmbedded ▸ embedded
    · cases inEmbedded

/-! ## Where tokens and sentences stand -/

def partAt (place : Place) : Span × Tier :=
  (sentenceAt place.offset place.sentence, tokensFrom place.offset place.sentence)

theorem separate_places (sentences : List Sentence) :
    Tier.Separate (((placesFrom 0 0 sentences).map partAt).flatMap (·.2)) := by
  rw [List.flatMap_map]
  apply separate_of_onLine _ (placesFrom_separated 0 0 sentences).2
  exact List.forall₂_same.mpr fun place _ => onLine_tokensFrom place

theorem tiers_of_documentOf {options : Options} {source : Text} {sentences : List Sentence}
    {document : Document} {notices : List Notice}
    (nonempty : ∀ sentence ∈ sentences, sentence ≠ [])
    (made : documentOf options source sentences = .ok (document, notices)) :
    document.tiers.get? "tokens" =
        some (((placesFrom 0 0 sentences).map partAt).flatMap (·.2)) ∧
      document.tiers.get? "sentences" =
        some (((placesFrom 0 0 sentences).map partAt).map (·.1)) := by
  rcases lined_of_documentOf nonempty made with ⟨annotated, all, _, tiers⟩
  have parts : (annotated.map fun one => (one.sentence, one.tokens)) =
      (placesFrom 0 0 sentences).map partAt :=
    List.map_eq_of_forall₂ all fun lined => Prod.ext lined.sentence lined.tokens
  rw [← parts, List.flatMap_map, List.map_map, tiers]
  exact ⟨rfl, rfl⟩

/-- A sentence of a text with `offset` characters in front of it. Each token covers the
place of its form, behind the forms before it and the spaces that follow them, and the
sentence runs from its first token to its last. -/
structure Covers (text : Text) (offset : Nat) (sentence : Sentence) (part : Span × Tier) :
    Prop where
  count : part.2.length = sentence.length
  tokens : ∀ (index : Nat) (word : Word), sentence[index]? = some word →
    ∃ token, part.2[index]? = some token ∧
      token.start = offset + (lineText (sentence.take index)).length ∧
      token.stop = token.start + word.form.length ∧
      token.covered text = word.form ∧ token.label = some word.form
  start : part.2.head?.map (·.start) = some part.1.start
  stop : part.2.getLast?.map (·.stop) = some part.1.stop

theorem tokensFrom_getElem? (offset : Nat) (sentence : Sentence) (index : Nat) :
    (tokensFrom offset sentence)[index]? = sentence[index]?.map fun word =>
      Span.tokenAt (offset + (lineText (sentence.take index)).length) word.form := by
  induction sentence generalizing offset index with
  | nil => rfl
  | cons word rest induction =>
      cases index with
      | zero => rfl
      | succ index =>
          rw [tokensFrom, List.getElem?_cons_succ, induction, List.getElem?_cons_succ,
            List.take_succ_cons, length_lineText_cons]
          simp only [Nat.add_assoc]

theorem standsAt_form {text : Text} {offset index : Nat} {sentence : Sentence} {word : Word}
    (stands : text.StandsAt offset (lineText sentence)) (found : sentence[index]? = some word) :
    text.StandsAt (offset + (lineText (sentence.take index)).length) word.form := by
  rcases List.getElem?_eq_some_iff.mp found with ⟨bound, rfl⟩
  rw [← List.take_append_drop index sentence, lineText, List.flatMap_append,
    List.drop_eq_getElem_cons bound, List.flatMap_cons] at stands
  exact stands.right.left.left

theorem covers_partAt {text : Text} {place : Place}
    (stands : text.StandsAt place.offset (lineText place.sentence))
    (nonempty : place.sentence ≠ []) :
    Covers text place.offset place.sentence (partAt place) where
  count := length_tokensFrom _ _
  tokens := by
    intro index word found
    refine ⟨_, by rw [partAt, tokensFrom_getElem?, found]; rfl, rfl, rfl, ?_, rfl⟩
    exact Span.covered_tokenAt (standsAt_form stands found)
  start := by
    rcases @head?_tokensFrom place.offset place.sentence nonempty with ⟨first, found, start⟩
    rw [partAt, found, Option.map_some, start]
    rfl
  stop := by
    rcases @getLast?_tokensFrom place.offset place.sentence _
      (List.getLast?_eq_some_getLast nonempty) with ⟨last, found, stop⟩
    rw [partAt, found, Option.map_some]
    simp only [sentenceAt, Option.some.injEq]
    omega

theorem contains_partAt_iff {sentences : List Sentence} {index other : Nat}
    {place otherPlace : Place} {token : Span}
    (found : (placesFrom 0 0 sentences)[index]? = some place)
    (foundOther : (placesFrom 0 0 sentences)[other]? = some otherPlace)
    (member : token ∈ (partAt otherPlace).2) :
    (partAt place).1.contains token ↔ index = other := by
  have separated := (placesFrom_separated 0 0 sentences).2
  have bounds := token_bounds member
  rw [Tag.contains_iff]
  simp only [partAt, sentenceAt]
  rcases List.getElem?_eq_some_iff.mp found with ⟨bound, rfl⟩
  rcases List.getElem?_eq_some_iff.mp foundOther with ⟨otherBound, rfl⟩
  rcases Nat.lt_trichotomy index other with before | rfl | after
  · have apart := List.pairwise_iff_getElem.mp separated _ _ bound otherBound before
    omega
  · omega
  · have apart := List.pairwise_iff_getElem.mp separated _ _ otherBound bound after
    omega

/-! ## The document of a corpus -/

/-- The text, the tokens and sentences, and the order of all tiers of a document that is
made of the words of sentences. -/
structure Constructed (options : Options) (sentences : List Sentence) (document : Document) :
    Prop where
  text : document.text = sentences.flatMap fun sentence =>
    (sentence.flatMap fun word => word.form ++ [' ']) ++ ['\n']
  tierNames : document.tiers.map (·.1) = ["tokens", "sentences"] ++
    (if options.entities then ["nes"] else []) ++
    (if options.embedded then ["nes.embedded"] else [])
  parts : ∃ parts : List (Span × Tier),
    document.tiers.get? "sentences" = some (parts.map (·.1)) ∧
    document.tiers.get? "tokens" = some (parts.flatMap (·.2)) ∧
    parts.length = sentences.length ∧
    (∀ (index : Nat) (sentence : Sentence), sentences[index]? = some sentence →
      ∃ part, parts[index]? = some part ∧
        Covers document.text (corpusText (sentences.take index)).length sentence part) ∧
    ∀ (index other : Nat) (part otherPart : Span × Tier), parts[index]? = some part →
      parts[other]? = some otherPart →
      ∀ token ∈ otherPart.2, part.1.contains token ↔ index = other
  ordered : ∀ tier ∈ document.tiers.map (·.2), Tier.Sorted tier ∧
    Tier.hasOverlaps tier = false ∧ Tier.Disjoint tier

theorem constructed_of_documentOf {options : Options} {source : Text}
    {sentences : List Sentence} {document : Document} {notices : List Notice}
    (nonempty : ∀ sentence ∈ sentences, sentence ≠ [])
    (made : documentOf options source sentences = .ok (document, notices)) :
    Constructed options sentences document := by
  rcases lined_of_documentOf nonempty made with ⟨annotated, all, text, tiers⟩
  have tiersFound := tiers_of_documentOf nonempty made
  refine ⟨text, ?_, ⟨(placesFrom 0 0 sentences).map partAt, tiersFound.2, tiersFound.1, ?_, ?_,
    ?_⟩, ?_⟩
  · rw [tiers, tiersOf]
    cases options.entities <;> cases options.embedded <;> rfl
  · rw [List.length_map, length_placesFrom]
  · intro index sentence found
    have foundPlace := place_of_sentence found
    have member := List.mem_of_getElem? foundPlace
    refine ⟨_, by rw [List.getElem?_map, foundPlace, Option.map_some], ?_⟩
    rw [text]
    exact covers_partAt (standsAt_of_place (standsAt_corpus sentences) member)
      (nonempty _ (sentence_mem_of_place member))
  · intro index other part otherPart found foundOther token member
    rw [List.getElem?_map] at found foundOther
    rcases Option.map_eq_some_iff.mp found with ⟨place, foundPlace, rfl⟩
    rcases Option.map_eq_some_iff.mp foundOther with ⟨otherPlace, foundOtherPlace, rfl⟩
    exact contains_partAt_iff foundPlace foundOtherPlace member
  · intro tier member
    rw [tiers] at member
    have separate := separate_of_lined nonempty all tier member
    exact ⟨separate.sorted, separate.hasOverlaps_eq_false,
      Tier.disjoint_of_hasOverlaps separate.sorted.startsOrdered separate.hasOverlaps_eq_false⟩

/-- Lines make a document, unless one of them is out of format. -/
theorem readLines_constructs (options : Options) (lines : List Text) (source : Text) :
    match readSentences options source lines with
    | .error error => readLines options lines source = .error (.format error)
    | .ok sentences => ∃ document notices,
        readLines options lines source = .ok (document, notices) ∧
        Constructed options sentences document := by
  cases split : readSentences options source lines with
  | error error => rw [readLines, split]
  | ok sentences =>
      have nonempty := nonempty_of_readSentences split
      rcases @exists_documentOf options source sentences nonempty with ⟨document, notices, made⟩
      refine ⟨document, notices, ?_, constructed_of_documentOf nonempty made⟩
      rw [readLines, split]
      exact made

end Standoff.Columns
