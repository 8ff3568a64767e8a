import Standoff.Proofs.Columns.Layout
import Standoff.Proofs.Grouping
import Standoff.Proofs.Tag.Normal

/-! What the tiers of a corpus give back when they are grouped by sentence. Each
group holds the tokens of one sentence and the entities of its outer tags, and
writing these entities gives the tags in normal form. -/

namespace Standoff.Columns

/-! ## The columns of one sentence -/

def outerCells (sentence : Sentence) : List (Option Text) :=
  sentence.map fun word => some word.tag

def embeddedCells (sentence : Sentence) : List (Option Text) := sentence.map (·.embedded)

def columnAt (wanted : Bool) (text source : Text) (place : Place)
    (cells : List (Option Text)) : Except Error (List Span × List Notice) :=
  if wanted then
    columnEntities text source place.index (tokensFrom place.offset place.sentence) cells
  else .ok ([], [])

theorem annotateSentence_of_line {options : Options} {text source : Text} {place : Place}
    (stands : text.StandsAt place.offset (lineText place.sentence))
    (nonempty : place.sentence ≠ []) :
    annotateSentence options text source place.index place.offset place.sentence =
      (columnAt options.entities text source place (outerCells place.sentence)).bind
        fun outer =>
          (columnAt options.embedded text source place (embeddedCells place.sentence)).map
            fun inner => {
              tokens := tokensFrom place.offset place.sentence
              sentence := sentenceAt place.offset place.sentence
              entities := outer.1
              embedded := inner.1
              notices := outer.2 ++ inner.2 } := by
  rw [annotateSentence, layTokens_of_line stands, columnAt, columnAt, outerCells, embeddedCells]
  simp only [Except.mapError, bind, Except.bind, sentenceOf?_of_line stands nonempty]
  generalize columnEntities text source place.index _ (place.sentence.map fun word =>
    some word.tag) = outer
  generalize columnEntities text source place.index _ (place.sentence.map (·.embedded)) = inner
  cases options.entities <;> cases options.embedded <;> cases outer <;> cases inner <;> rfl

theorem columnEntities_eq_ok_iff {text source : Text} {index : Nat} {tokens : List Span}
    {cells : List (Option Text)} {entities : List Span} {notices : List Notice} :
    columnEntities text source index tokens cells = .ok (entities, notices) ↔
      Segment.entities text tokens cells = .ok entities ∧ notices = [] ∨
      ∃ error, Segment.entities text tokens cells = .error (.tag error) ∧ entities = [] ∧
        notices = [.entitiesSkipped source index error] := by
  unfold columnEntities
  cases Segment.entities text tokens cells with
  | ok read => simp [eq_comm]
  | error error => cases error <;> simp [eq_comm]

theorem annotateSentence_eq_ok_iff {options : Options} {text source : Text} {place : Place}
    (stands : text.StandsAt place.offset (lineText place.sentence))
    (nonempty : place.sentence ≠ []) {one : Annotated} :
    annotateSentence options text source place.index place.offset place.sentence = .ok one ↔
      ∃ outer inner,
        columnAt options.entities text source place (outerCells place.sentence) = .ok outer ∧
        columnAt options.embedded text source place (embeddedCells place.sentence) = .ok inner ∧
        one = {
          tokens := tokensFrom place.offset place.sentence
          sentence := sentenceAt place.offset place.sentence
          entities := outer.1
          embedded := inner.1
          notices := outer.2 ++ inner.2 } := by
  rw [annotateSentence_of_line stands nonempty]
  constructor
  · intro annotates
    rcases Result.bind_eq_ok_iff.mp annotates with ⟨outer, outerRead, made⟩
    rcases Result.map_eq_ok_iff.mp made with ⟨inner, innerRead, rfl⟩
    exact ⟨outer, inner, outerRead, innerRead, rfl⟩
  · rintro ⟨outer, inner, outerRead, innerRead, rfl⟩
    rw [outerRead, innerRead]
    rfl

/-! ## The tokens of a sentence -/

theorem strictlyAscending_tokensFrom (offset : Nat) (sentence : Sentence) :
    Tag.StrictlyAscending (tokensFrom offset sentence) where
  starts := (tokensFrom_separated offset sentence).imp_of_mem fun member _ before =>
    Nat.lt_of_le_of_lt (token_bounds member).2.1 before
  stops := (tokensFrom_separated offset sentence).imp_of_mem fun _ member before =>
    Nat.lt_of_lt_of_le before (token_bounds member).2.1

theorem within_of_line {text : Text} {offset : Nat} {sentence : Sentence}
    (stands : text.StandsAt offset (lineText sentence)) {token : Span}
    (member : token ∈ tokensFrom offset sentence) : token.Within text := by
  have bounds := token_bounds member
  have nonempty : sentence ≠ [] := by
    intro empty
    subst empty
    cases member
  have inside := stands.length_le (List.ne_nil_of_length_pos (lineText_pos nonempty))
  constructor <;> omega

/-- The last form of a sentence is not empty. -/
def EndsVisibly (sentence : Sentence) : Prop :=
  ∃ word, sentence.getLast? = some word ∧ word.form ≠ []

theorem EndsVisibly.nonempty {sentence : Sentence} (visible : EndsVisibly sentence) :
    sentence ≠ [] := by
  intro empty
  subst empty
  rcases visible with ⟨word, last, _⟩
  cases last

theorem EndsVisibly.start_lt {offset : Nat} {sentence : Sentence}
    (visible : EndsVisibly sentence) {token : Span}
    (member : token ∈ tokensFrom offset sentence) :
    token.start + 1 < offset + (lineText sentence).length := by
  induction sentence generalizing offset with
  | nil => cases member
  | cons first rest induction =>
      rw [length_lineText_cons]
      cases rest with
      | nil =>
          -- Without a width, the last token would start at the sentence's end, where a
          -- group does not reach.
          rcases visible with ⟨word, last, shown⟩
          have same : first = word := Option.some.inj last
          have width := List.length_pos_of_ne_nil shown
          have equal := List.mem_singleton.mp member
          subst same
          subst equal
          simp only [Span.tokenAt]
          omega
      | cons second rest =>
          have laterVisible : EndsVisibly (second :: rest) := by
            rcases visible with ⟨word, last, shown⟩
            exact ⟨word, List.getLast?_cons_cons ▸ last, shown⟩
          have width := lineText_pos laterVisible.nonempty
          rcases List.mem_cons.mp member with equal | inRest
          · subst equal
            simp only [Span.tokenAt]
            omega
          · have := induction laterVisible inRest
            omega

theorem EndsVisibly.reaches_token {offset : Nat} {sentence : Sentence}
    (visible : EndsVisibly sentence) {token : Span}
    (member : token ∈ tokensFrom offset sentence) :
    Tier.reaches (sentenceAt offset sentence) token := by
  have bounds := token_bounds member
  have before := visible.start_lt member
  simp only [Tier.reaches_iff, sentenceAt]
  omega

/-! ## The entities of a sentence -/

/-- What a column makes of the tokens of a sentence: the entities that its tags stand for,
or none when one of its cells holds no tag. -/
structure Decoded (text : Text) (tokens : Tier) (cells : List (Option Text))
    (entities : Tier) : Prop where
  read : (∀ cell ∈ cells, Tag.Readable cell) → Segment.entities text tokens cells = .ok entities
  dropped : (∃ cell ∈ cells, ¬ Tag.Readable cell) → entities = []

theorem columnEntities_of_line {text : Text} {offset : Nat} {sentence : Sentence}
    {cells : List (Option Text)} (source : Text) (index : Nat)
    (stands : text.StandsAt offset (lineText sentence)) (count : cells.length = sentence.length) :
    ∃ entities, Decoded text (tokensFrom offset sentence) cells entities ∧
      columnEntities text source index (tokensFrom offset sentence) cells = .ok (entities,
        ((Tag.firstUnreadable cells).map (Notice.entitiesSkipped source index)).toList) := by
  have tokenCount : (tokensFrom offset sentence).length = cells.length := by
    rw [length_tokensFrom, count]
  cases found : Tag.firstUnreadable cells with
  | none =>
      have readable := Tag.firstUnreadable_eq_none_iff.mp found
      rcases Tag.exists_tags_of_readable readable with ⟨tags, written⟩
      rcases Tag.exists_entities (strictlyAscending_tokensFrom _ _).ascending
        (fun token => within_of_line stands) tokenCount written with ⟨entities, read⟩
      refine ⟨entities, ⟨fun _ => read, ?_⟩, columnEntities_eq_ok_iff.mpr (.inl ⟨read, rfl⟩)⟩
      rintro ⟨cell, member, without⟩
      exact absurd (readable cell member) without
  | some error =>
      have failed := @Segment.entities_of_firstUnreadable text _ _ _ tokenCount found
      refine ⟨[], ⟨fun readable => ?_, fun _ => rfl⟩,
        columnEntities_eq_ok_iff.mpr (.inr ⟨error, failed, rfl, rfl⟩)⟩
      cases found.symm.trans (Tag.firstUnreadable_eq_none_iff.mpr readable)

theorem EndsVisibly.reaches_entity {text : Text} {offset : Nat} {sentence : Sentence}
    (visible : EndsVisibly sentence) {cells : List (Option Text)} {entities : List Span}
    (read : Segment.entities text (tokensFrom offset sentence) cells = .ok entities)
    {entity : Span} (member : entity ∈ entities) :
    Tier.reaches (sentenceAt offset sentence) entity := by
  rcases Segment.exists_makes read member with ⟨_, segment, _, _, makes, _⟩
  rcases makes.start with ⟨first, foundFirst, start⟩
  rcases makes.stop with ⟨last, foundLast, stop⟩
  have before := visible.start_lt (List.mem_of_getElem? foundFirst)
  have firstBounds := token_bounds (List.mem_of_getElem? foundFirst)
  have lastBounds := token_bounds (List.mem_of_getElem? foundLast)
  simp only [Tier.reaches_iff, sentenceAt]
  omega

theorem startsOrdered_of_entities {text : Text} {tokens entities : List Span}
    {cells : List (Option Text)} (ascending : Tag.Ascending tokens)
    (read : Segment.entities text tokens cells = .ok entities) :
    Tier.StartsOrdered entities := by
  rcases Segment.entities_eq_ok_iff.mp read with ⟨_, tags, _, made⟩
  have segmentation := Segment.segmentation_ofTags tags
  refine List.pairwise_of_forall₂ made
    (segmentation.ordered.imp_of_mem fun member _ before => And.intro member before) ?_
  intro segment later entity other entityMade otherMade known
  rcases (Segment.makes_of_entity? entityMade).1.start with ⟨first, found, start⟩
  rcases (Segment.makes_of_entity? otherMade).1.start with ⟨second, foundLater, laterStart⟩
  have nonempty := (segmentation.proper segment known.1).nonempty
  have before := Tag.le_of_pairwise ascending.starts found foundLater (by omega)
  omega

/-! ## From sentences to groups -/

/-- What the groups of a sentence hold. The entities are those that the outer tags
stand for, or none when one of the cells holds no tag. -/
structure Regrouped (text : Text) (offset : Nat) (sentence : Sentence)
    (tokens entities : Tier) : Prop where
  tokens_eq : tokens = tokensFrom offset sentence
  forms : tokens.map (Span.covered text) = sentence.map (·.form)
  tagged : ∀ tags, List.Forall₂ Tag.Written (outerCells sentence) tags →
    Segment.entities text tokens (outerCells sentence) = .ok entities ∧
      Tag.encode tokens entities = .ok (Tag.normalForm tags)
  dropped : (∃ cell ∈ outerCells sentence, ¬ Tag.Readable cell) →
    entities = [] ∧ Tag.encode tokens entities = .ok (sentence.map fun _ => .outside)

/-- What a sentence contributes when its entities are wanted. -/
structure Contributes (text source : Text) (place : Place) (annotated : Annotated) : Prop where
  tokens : annotated.tokens = tokensFrom place.offset place.sentence
  sentence : annotated.sentence = sentenceAt place.offset place.sentence
  outer : ∃ notices, columnEntities text source place.index
    (tokensFrom place.offset place.sentence) (outerCells place.sentence) =
      .ok (annotated.entities, notices)

theorem contributes_of_annotateSentence {options : Options} {text source : Text}
    {place : Place} {annotated : Annotated} (wanted : options.entities = true)
    (stands : text.StandsAt place.offset (lineText place.sentence))
    (nonempty : place.sentence ≠ [])
    (annotates : annotateSentence options text source place.index place.offset place.sentence =
      .ok annotated) : Contributes text source place annotated := by
  rcases (annotateSentence_eq_ok_iff stands nonempty).mp annotates with
    ⟨outer, inner, outerRead, _, rfl⟩
  rw [columnAt, if_pos wanted] at outerRead
  exact ⟨rfl, rfl, outer.2, outerRead⟩

theorem regrouped_of_contributes {text source : Text} {place : Place} {annotated : Annotated}
    (stands : text.StandsAt place.offset (lineText place.sentence))
    (contributes : Contributes text source place annotated) :
    Regrouped text place.offset place.sentence annotated.tokens annotated.entities := by
  have count : (outerCells place.sentence).length = place.sentence.length := List.length_map _
  rcases contributes.outer with ⟨notices, outer⟩
  rcases columnEntities_of_line source place.index stands count with ⟨entities, decoded, made⟩
  cases outer.symm.trans made
  rw [contributes.tokens]
  refine ⟨rfl, covered_tokensFrom stands, ?_, ?_⟩
  · intro tags written
    have read := decoded.read (Tag.readable_of_written written)
    exact ⟨read, Tag.encode_of_entities (strictlyAscending_tokensFrom _ _) written read⟩
  · intro unreadable
    have none := decoded.dropped unreadable
    rw [none]
    refine ⟨rfl, congrArg Except.ok ?_⟩
    rw [List.map_const', List.map_const', length_tokensFrom]

theorem Contributes.reaches_token {text source : Text} {place : Place} {one : Annotated}
    (contributes : Contributes text source place one) (visible : EndsVisibly place.sentence) :
    ∀ token ∈ one.tokens, Tier.reaches one.sentence token := by
  intro token member
  rw [contributes.tokens] at member
  rw [contributes.sentence]
  exact visible.reaches_token member

theorem Contributes.tokens_ordered {text source : Text} {place : Place} {one : Annotated}
    (contributes : Contributes text source place one) : Tier.StartsOrdered one.tokens := by
  rw [contributes.tokens]
  exact (strictlyAscending_tokensFrom _ _).ascending.starts

theorem Contributes.reaches_entity {text source : Text} {place : Place} {one : Annotated}
    (contributes : Contributes text source place one) (visible : EndsVisibly place.sentence) :
    ∀ entity ∈ one.entities, Tier.reaches one.sentence entity := by
  intro entity member
  rcases contributes.outer with ⟨notices, outer⟩
  rw [contributes.sentence]
  rcases columnEntities_eq_ok_iff.mp outer with ⟨read, _⟩ | ⟨error, _, none, _⟩
  · exact visible.reaches_entity read member
  · rw [none] at member
    cases member

theorem Contributes.entities_ordered {text source : Text} {place : Place} {one : Annotated}
    (contributes : Contributes text source place one) : Tier.StartsOrdered one.entities := by
  rcases contributes.outer with ⟨notices, outer⟩
  rcases columnEntities_eq_ok_iff.mp outer with ⟨read, _⟩ | ⟨error, _, none, _⟩
  · exact startsOrdered_of_entities (strictlyAscending_tokensFrom _ _).ascending read
  · rw [none]
    exact .nil

/-- A sentence of a place with spans of its own. -/
structure Fits (place : Place) (part : Span × Tier) : Prop where
  sentence : part.1 = sentenceAt place.offset place.sentence
  inside : ∀ span ∈ part.2, Tier.reaches part.1 span
  ordered : Tier.StartsOrdered part.2

theorem parted_of_fits {places : List Place} {parts : List (Span × Tier)}
    (all : List.Forall₂ Fits places parts)
    (separated : places.Pairwise fun place later =>
      place.offset + (lineText place.sentence).length < later.offset)
    (visible : ∀ place ∈ places, EndsVisibly place.sentence) : Tier.Parted parts where
  forward part member := by
    rcases List.exists_left_of_forall₂ all member with ⟨place, inPlaces, fits⟩
    have positive := lineText_pos (visible place inPlaces).nonempty
    simp only [fits.sentence, sentenceAt]
    omega
  apart := by
    refine List.pairwise_of_forall₂ all separated ?_
    intro place later part other fits laterFits before
    simp only [fits.sentence, laterFits.sentence, sentenceAt]
    omega
  inside part member := by
    rcases List.exists_left_of_forall₂ all member with ⟨place, _, fits⟩
    exact fits.inside
  ordered part member := by
    rcases List.exists_left_of_forall₂ all member with ⟨place, _, fits⟩
    exact fits.ordered

theorem group_of_contributes {text source : Text} {places : List Place}
    {annotated : List Annotated} {part : Annotated → Tier}
    (all : List.Forall₂ (Contributes text source) places annotated)
    (separated : places.Pairwise fun place later =>
      place.offset + (lineText place.sentence).length < later.offset)
    (visible : ∀ place ∈ places, EndsVisibly place.sentence)
    (inside : ∀ {place one}, Contributes text source place one → EndsVisibly place.sentence →
      ∀ span ∈ part one, Tier.reaches one.sentence span)
    (ordered : ∀ {place one}, Contributes text source place one →
      Tier.StartsOrdered (part one)) :
    Tier.group (annotated.map (·.sentence)) (annotated.flatMap part) =
      annotated.map fun one => (one.sentence, part one) := by
  have known := (List.forall₂_and_left _ _).mpr ⟨visible, all⟩
  have fits : List.Forall₂ Fits places (annotated.map fun one => (one.sentence, part one)) := by
    rw [List.forall₂_map_right_iff]
    refine known.imp ?_
    intro place one contributes
    exact ⟨contributes.2.sentence, inside contributes.2 contributes.1, ordered contributes.2⟩
  have grouped := (parted_of_fits fits separated visible).group_eq
  rw [List.map_map, List.flatMap_map] at grouped
  exact grouped

/-! ## Whole corpora -/

def tiersOf (options : Options) (annotated : List Annotated) : Tiers :=
  [("tokens", annotated.flatMap (·.tokens)), ("sentences", annotated.map (·.sentence))] ++
    (if options.entities then [("nes", annotated.flatMap (·.entities))] else []) ++
    (if options.embedded then [("nes.embedded", annotated.flatMap (·.embedded))] else [])

theorem exists_annotated {options : Options} {source : Text} {sentences : List Sentence}
    {document : Document} {notices : List Notice}
    (made : documentOf options source sentences = .ok (document, notices)) :
    ∃ annotated : List Annotated,
      List.Forall₂ (fun place one => place.sentence ∈ sentences ∧
        document.text.StandsAt place.offset (lineText place.sentence) ∧
        annotateSentence options document.text source place.index place.offset
          place.sentence = .ok one) (placesFrom 0 0 sentences) annotated ∧
      document.text = corpusText sentences ∧ document.tiers = tiersOf options annotated ∧
      notices = annotated.flatMap (·.notices) ++
        [.corpusRead source annotated.length (annotated.flatMap (·.tokens)).length] := by
  rcases Result.bind_eq_ok_iff.mp made with ⟨annotated, each, returned⟩
  cases returned
  have known := (List.forall₂_and_left _ _).mpr
    ⟨fun place member => member, annotateFrom_eq_ok_iff.mp each⟩
  refine ⟨annotated, known.imp ?_, rfl, rfl, rfl⟩
  intro place one annotates
  exact ⟨sentence_mem_of_place annotates.1,
    standsAt_of_place (standsAt_corpus sentences) annotates.1, annotates.2⟩

theorem contributes_of_documentOf {options : Options} {source : Text}
    {sentences : List Sentence} {document : Document} {notices : List Notice}
    (wanted : options.entities = true) (visible : ∀ sentence ∈ sentences, EndsVisibly sentence)
    (made : documentOf options source sentences = .ok (document, notices)) :
    ∃ annotated : List Annotated,
      List.Forall₂ (Contributes document.text source) (placesFrom 0 0 sentences) annotated ∧
      document.text = corpusText sentences ∧
      document.tiers.get? "sentences" = some (annotated.map (·.sentence)) ∧
      document.tiers.get? "tokens" = some (annotated.flatMap (·.tokens)) ∧
      document.tiers.get? "nes" = some (annotated.flatMap (·.entities)) := by
  rcases exists_annotated made with ⟨annotated, each, text, tiers, _⟩
  rw [tiers, tiersOf, if_pos wanted]
  refine ⟨annotated, each.imp ?_, text, rfl, rfl, rfl⟩
  rintro place one ⟨member, stands, annotates⟩
  exact contributes_of_annotateSentence wanted stands (visible _ member).nonempty annotates

theorem regrouped_of_readLines {options : Options} {lines : List Text} {source : Text}
    {sentences : List Sentence} {document : Document} {notices : List Notice}
    (wanted : options.entities = true)
    (split : readSentences options source lines = .ok sentences)
    (visible : ∀ sentence ∈ sentences, EndsVisibly sentence)
    (read : readLines options lines source = .ok (document, notices)) :
    ∃ sentenceTier tokenTier entityTier : Tier,
      document.tiers.get? "sentences" = some sentenceTier ∧
      document.tiers.get? "tokens" = some tokenTier ∧
      document.tiers.get? "nes" = some entityTier ∧
      (Tier.group sentenceTier tokenTier).length = sentences.length ∧
      (Tier.group sentenceTier entityTier).length = sentences.length ∧
      ∀ index sentence, sentences[index]? = some sentence →
        ∃ span tokens entities,
          (Tier.group sentenceTier tokenTier)[index]? = some (span, tokens) ∧
          (Tier.group sentenceTier entityTier)[index]? = some (span, entities) ∧
          Regrouped document.text (corpusText (sentences.take index)).length sentence tokens
            entities := by
  rw [readLines, split] at read
  rcases contributes_of_documentOf wanted visible read with
    ⟨annotated, all, text, sentenceTier, tokenTier, entityTier⟩
  have separated := (placesFrom_separated 0 0 sentences).2
  have visiblePlaces : ∀ place ∈ placesFrom 0 0 sentences, EndsVisibly place.sentence :=
    fun place member => visible _ (sentence_mem_of_place member)
  have tokenGroups := group_of_contributes all separated visiblePlaces
    Contributes.reaches_token Contributes.tokens_ordered
  have entityGroups := group_of_contributes all separated visiblePlaces
    Contributes.reaches_entity Contributes.entities_ordered
  have count : annotated.length = sentences.length := by
    rw [← all.length_eq, length_placesFrom]
  refine ⟨_, _, _, sentenceTier, tokenTier, entityTier, ?_, ?_, ?_⟩
  · rw [tokenGroups, List.length_map, count]
  · rw [entityGroups, List.length_map, count]
  · intro index sentence found
    have foundPlace := place_of_sentence found
    rcases List.exists_getElem?_of_forall₂ all foundPlace with ⟨one, foundOne, contributes⟩
    have stands := standsAt_of_place (standsAt_corpus sentences)
      (List.mem_of_getElem? foundPlace)
    rw [← text] at stands
    refine ⟨one.sentence, one.tokens, one.entities, ?_, ?_,
      regrouped_of_contributes stands contributes⟩
    · rw [tokenGroups, List.getElem?_map, foundOne, Option.map_some]
    · rw [entityGroups, List.getElem?_map, foundOne, Option.map_some]

/-- An entity opened by an inside tag, an empty form, an entity right behind another
of its type, and a sentence with a cell that holds no tag. -/
theorem regrouped_of_odd_lines :
    ∃ document notices, ∃ sentenceTier tokenTier entityTier : Tier,
      readLines {} ["a I-P\n".toList, " I-P\n".toList, "b B-P\n".toList, [], "c X".toList] =
        .ok (document, notices) ∧
      document.tiers.get? "sentences" = some sentenceTier ∧
      document.tiers.get? "tokens" = some tokenTier ∧
      document.tiers.get? "nes" = some entityTier ∧
      (∃ span tokens entities,
        (Tier.group sentenceTier tokenTier)[0]? = some (span, tokens) ∧
        (Tier.group sentenceTier entityTier)[0]? = some (span, entities) ∧
        Tag.encode tokens entities = .ok [.begin ['P'], .inside ['P'], .begin ['P']]) ∧
      ∃ span tokens,
        (Tier.group sentenceTier tokenTier)[1]? = some (span, tokens) ∧
        (Tier.group sentenceTier entityTier)[1]? = some (span, []) ∧
        Tag.encode tokens [] = .ok [.outside] := by
  let lines : List Text :=
    ["a I-P\n".toList, " I-P\n".toList, "b B-P\n".toList, [], "c X".toList]
  let sentences : List Sentence := [[⟨['a'], ['I', '-', 'P'], none⟩, ⟨[], ['I', '-', 'P'], none⟩,
    ⟨['b'], ['B', '-', 'P'], none⟩], [⟨['c'], ['X'], none⟩]]
  have visible : ∀ sentence ∈ sentences, EndsVisibly sentence := by
    simp [sentences, EndsVisibly]
  rcases regrouped_of_readLines rfl
    (show readSentences {} noSource lines = .ok sentences from rfl) visible rfl with
    ⟨sentenceTier, tokenTier, entityTier, sentencesFound, tokensFound, entitiesFound, _, _,
      each⟩
  rcases each 0 _ rfl with ⟨span, tokens, entities, tokenGroup, entityGroup, regrouped⟩
  rcases each 1 _ rfl with ⟨later, laterTokens, none, laterTokenGroup, laterEntityGroup, dropped⟩
  have written := regrouped.tagged _ (Tag.readAll_eq_ok_iff.mp rfl)
  have unread := dropped.dropped ⟨_, .head _, Tag.parse?_eq_none_iff.mp rfl⟩
  rw [unread.1] at laterEntityGroup unread
  exact ⟨_, _, sentenceTier, tokenTier, entityTier, rfl, sentencesFound, tokensFound,
    entitiesFound, ⟨span, tokens, entities, tokenGroup, entityGroup, written.2⟩,
    later, laterTokens, laterTokenGroup, laterEntityGroup, unread.2⟩

end Standoff.Columns
