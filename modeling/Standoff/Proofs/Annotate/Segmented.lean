import Standoff.Proofs.Annotate.Forms
import Standoff.Proofs.Annotate.Tagger
import Standoff.Proofs.Columns.Construction

/-! Tagging what was segmented. However tokens and sentences are made, the sentences give
back all of the tokens, so that a tagger asks for each of them once. -/

namespace Standoff

/-- Tokens that stand one behind the other, and that sentences give back. -/
structure Tier.Segmented (tokens sentences : Tier) : Prop where
  separate : tokens.Separate
  regrouped : (Tier.group sentences tokens).flatMap (·.2) = tokens

theorem Tier.Parted.segmented {parts : List (Span × Tier)} (parted : Parted parts)
    (separate : Separate (parts.flatMap (·.2))) :
    Segmented (parts.flatMap (·.2)) (parts.map (·.1)) :=
  ⟨separate, by rw [parted.group_eq]⟩

/-! ## Segmentation by forms -/

namespace Forms

theorem Laid.separate {text : Text} {lower upper : Nat} {answered : List (List Text)}
    {sentences : List Sentence} (laid : Laid text lower upper answered sentences) :
    Tier.Separate (sentences.flatMap (·.1)) where
  forward token member := by
    rcases List.mem_flatMap.mp member with ⟨sentence, inSentences, inTokens⟩
    rcases laid.holds inSentences with ⟨forms, holds⟩
    exact Nat.le_of_lt (holds.bounds token inTokens).2.1
  apart := laid.ordered

theorem Laid.segmented {text : Text} {lower upper : Nat} {answered : List (List Text)}
    {sentences : List Sentence} (laid : Laid text lower upper answered sentences) :
    Tier.Segmented (sentences.flatMap (·.1)) (sentences.map (·.2)) := by
  have segmented := laid.parted.segmented
  rw [List.flatMap_map, List.map_map] at segmented
  exact segmented laid.separate

theorem Segmenter.segmented_of_annotator {μ : Type} {segmenter : Segmenter μ}
    {surroundings : Surroundings μ} {document : Document} {state : State μ} {tiers : Tiers}
    (returned : (segmenter.annotator surroundings document state).result = .ok (some tiers)) :
    ∃ tokens sentences, tiers = [("tokens", tokens), ("sentences", sentences)] ∧
      Tier.Segmented tokens sentences := by
  rcases exists_align_of_annotator returned with ⟨_, _, sentences, _, _, aligned, made⟩
  cases made
  exact ⟨_, _, rfl, (laid_of_align aligned).segmented⟩

end Forms

/-! ## Corpora in columns -/

namespace Columns

theorem fits_partAt {place : Place} (visible : EndsVisibly place.sentence) :
    Fits place (partAt place) :=
  ⟨rfl, fun _ inPart => visible.reaches_token inPart,
    (strictlyAscending_tokensFrom _ _).ascending.starts⟩

theorem parted_places {sentences : List Sentence}
    (visible : ∀ sentence ∈ sentences, EndsVisibly sentence) :
    Tier.Parted ((placesFrom 0 0 sentences).map partAt) := by
  have visiblePlaces : ∀ place ∈ placesFrom 0 0 sentences, EndsVisibly place.sentence :=
    fun place member => visible _ (sentence_mem_of_place member)
  apply parted_of_fits _ (placesFrom_separated 0 0 sentences).2 visiblePlaces
  rw [List.forall₂_map_right_iff, List.forall₂_same]
  exact fun place member => fits_partAt (visiblePlaces place member)

end Columns

/-! ## Tagging -/

/-- Tokens and sentences of a text that were made by forms or read from columns in which
each sentence ends in a form that is not empty. -/
inductive Produced (text : Text) (tokens sentences : Tier) : Prop
  | forms {μ : Type} {segmenter : Forms.Segmenter μ} {surroundings : Forms.Surroundings μ}
      {document : Document} {state : Forms.State μ} {tiers : Tiers}
      (returned : (segmenter.annotator surroundings document state).result = .ok (some tiers))
      (same : document.text = text)
      (tokensMade : tiers.get? "tokens" = some tokens)
      (sentencesMade : tiers.get? "sentences" = some sentences)
  | columns {options : Columns.Options} {lines : List Text} {source : Text}
      {corpus : List Columns.Sentence} {document : Document} {notices : List Notice}
      (split : Columns.readSentences options source lines = .ok corpus)
      (visible : ∀ sentence ∈ corpus, Columns.EndsVisibly sentence)
      (read : Columns.readLines options lines source = .ok (document, notices))
      (same : document.text = text)
      (tokensRead : document.tiers.get? "tokens" = some tokens)
      (sentencesRead : document.tiers.get? "sentences" = some sentences)

theorem Produced.segmented {text : Text} {tokens sentences : Tier}
    (produced : Produced text tokens sentences) : Tier.Segmented tokens sentences := by
  cases produced with
  | forms returned _ tokensMade sentencesMade =>
      rcases Forms.Segmenter.segmented_of_annotator returned with
        ⟨_, _, rfl, segmented⟩
      cases tokensMade
      cases sentencesMade
      exact segmented
  | @columns _ _ _ corpus _ _ split visible read _ tokensRead sentencesRead =>
      rw [Columns.readLines, split] at read
      have nonempty : ∀ sentence ∈ corpus, sentence ≠ [] :=
        fun sentence member => (visible sentence member).nonempty
      have tiers := Columns.tiers_of_documentOf nonempty read
      rw [tokensRead, sentencesRead, Option.some.injEq, Option.some.injEq] at tiers
      rw [tiers.1, tiers.2]
      exact (Columns.parted_places visible).segmented (Columns.separate_places corpus)

namespace Tagger

section

variable {tagger : Tagger} {surroundings : Surroundings} {document : Document} {state : State}
  {tokens sentences : Tier} {made : Option Tiers}

def Tags (token span : Span) : Prop :=
  ∃ tag coarse, span = Span.partOfSpeech token (some tag) coarse

theorem forall₂_tags_pair {tags : List Text} (count : tags.length = tokens.length)
    (table : Option CategoryTable) : List.Forall₂ Tags tokens (pair table tokens tags) := by
  induction tokens generalizing tags with
  | nil => exact .nil
  | cons token later induction =>
      cases tags with
      | nil => cases count
      | cons tag others => exact .cons ⟨tag, _, rfl⟩ (induction (Nat.succ.inj count))

theorem separate_of_tags {pos : Tier} (tagged : List.Forall₂ Tags tokens pos)
    (separate : tokens.Separate) : pos.Separate where
  forward span member := by
    rcases List.exists_left_of_forall₂ tagged member with ⟨token, inTokens, _, _, rfl⟩
    exact separate.forward token inTokens
  apart := by
    refine List.pairwise_of_forall₂ tagged separate.apart ?_
    rintro token _ later _ ⟨_, _, rfl⟩ ⟨_, _, rfl⟩ before
    exact before

/-- Each token gets one tag, in the order of the tokens and over its own extent, however
the tokens were made and whatever the tool answers, in whatever pieces, and in any of the
three encodings of `Encoding`. -/
theorem annotator_tags_each (produced : Produced document.text tokens sentences)
    (tokensThere : document.tiers.get? "tokens" = some tokens)
    (sentencesThere : document.tiers.get? "sentences" = some sentences)
    (returned : (tagger.annotator surroundings document state).result = .ok made) :
    ∃ pos : List Span, made = some [("pos", pos)] ∧ pos.length = tokens.length ∧
      (∀ (index : Nat) (token : Span), tokens[index]? = some token →
        ∃ (span : Span) (tag : Text) (coarse : Option Text), pos[index]? = some span ∧
          span.start = token.start ∧ span.stop = token.stop ∧
          span.label = some tag ∧ span.role = .partOfSpeech token coarse) ∧
      Tier.Sorted pos ∧ Tier.hasOverlaps pos = false ∧
      (Tier.group sentences tokens).flatMap (·.2) = tokens := by
  have segmented := produced.segmented
  rcases framed_of_annotator tokensThere sentencesThere returned with
    ⟨plan, _, tags, _, _, framed, rfl⟩
  have flat : ((Tier.group sentences tokens).map (·.2)).flatten = tokens := by
    rw [← List.flatMap_def, segmented.regrouped]
  have count := framed.length_eq
  rw [List.flatten_filter_ne_nil, flat] at count
  have tagged := forall₂_tags_pair count plan.table
  have separate := separate_of_tags tagged segmented.separate
  rw [flat]
  refine ⟨_, rfl, tagged.length_eq.symm, fun index token found => ?_, separate.sorted,
    separate.hasOverlaps_eq_false, segmented.regrouped⟩
  rcases List.exists_getElem?_of_forall₂ tagged found with ⟨_, isSpan, tag, coarse, rfl⟩
  exact ⟨_, tag, coarse, isSpan, rfl, rfl, rfl, rfl⟩

/-- Two sentences that touch, behind an earlier occurrence of the first form. -/
theorem annotator_tags_each_touching :
    let segmenter : Forms.Segmenter Unit := { given := some (), zoneStart := 3 }
    let tokenizer : Forms.Surroundings Unit := {
      files := []
      directory := []
      load := fun _ => none
      tokenize := fun _ _ => some { sentences := [["ab".toList], [['c'], ['d']]] } }
    let text := "ab abcd".toList
    let ab : Span := ⟨3, 5, some "ab".toList, none, .token⟩
    let c : Span := ⟨5, 6, some ['c'], none, .token⟩
    let d : Span := ⟨6, 7, some ['d'], none, .token⟩
    let sentences : Tier := [⟨3, 5, none, none, .sentence⟩, ⟨5, 7, none, none, .sentence⟩]
    let tiers : Tiers := [("tokens", [ab, c, d]), ("sentences", sentences)]
    let document : Document := { text, tiers }
    let tagger : Tagger := {
      options := { encoding := some "utf8".toList, command := ["tagger".toList] }
      choice := { template := some ['m'], language := some "en".toList }
      table := none }
    let surroundings : Surroundings := {
      files := [([['m']], .file [] false)]
      directory := []
      program := {
        output := ["ab\tN".toList, "N\n\nc\tDT\n".toList, "d\tVB\n\n".toList].map
          (·.flatMap Encoding.utf8.encodeCharacter) } }
    let pos : List Span := [⟨3, 5, some "NN".toList, none, .partOfSpeech ab (some "NOUN".toList)⟩,
      ⟨5, 6, some "DT".toList, none, .partOfSpeech c (some "DET".toList)⟩,
      ⟨6, 7, some "VB".toList, none, .partOfSpeech d (some "VERB".toList)⟩]
    (segmenter.annotator tokenizer { text } {}).result = .ok (some tiers) ∧
      (tagger.annotator surroundings document {}).result = .ok (some [("pos", pos)]) ∧
      (∃ (span : Span) (tag : Text) (coarse : Option Text), pos[1]? = some span ∧
        span.start = 5 ∧ span.stop = 6 ∧ span.label = some tag ∧
        span.role = .partOfSpeech c coarse) ∧
      Tier.Sorted pos ∧ Tier.hasOverlaps pos = false := by
  intro segmenter tokenizer text ab c d sentences tiers document tagger surroundings pos
  have segmented : (segmenter.annotator tokenizer { text } {}).result = .ok (some tiers) := rfl
  have tokensThere : tiers.get? "tokens" = some [ab, c, d] := rfl
  have sentencesThere : tiers.get? "sentences" = some sentences := rfl
  have produced : Produced document.text [ab, c, d] sentences :=
    .forms segmented rfl tokensThere sentencesThere
  have tagged : (tagger.annotator surroundings document {}).result =
      .ok (some [("pos", pos)]) := rfl
  rcases annotator_tags_each produced tokensThere sentencesThere tagged with
    ⟨_, made, _, each, sorted, separate, _⟩
  cases made
  exact ⟨segmented, tagged, each 1 c rfl, sorted, separate⟩

end

end Tagger

end Standoff
