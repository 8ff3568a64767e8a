import Standoff.Annotate.Forms
import Standoff.Proofs.Alignment
import Standoff.Proofs.Grouping
import Standoff.Proofs.List
import Standoff.Proofs.Result

/-! Segmentation by forms is faithful. The tokens cover the forms of the answer in
their order inside the zone, and grouping by sentences gives them back sentence by
sentence. -/

namespace Standoff.Forms

/-! ## One sentence -/

def tokenOver (text : Text) (offset : Nat) (extent : Nat × Nat) : Span where
  start := offset + extent.1
  stop := offset + extent.2
  label := some ((text.drop (offset + extent.1)).take (extent.2 - extent.1))
  role := .token

theorem token?_of_extent {text : Text} {offset : Nat} {extent : Nat × Nat}
    (inOrder : extent.1 ≤ extent.2) (inside : offset + extent.2 ≤ text.length) :
    Span.token? text (extent.1 + (offset : Int)) (extent.2 + (offset : Int)) =
      .ok (tokenOver text offset extent) := by
  have made := Span.make?_natCast (show extent.1 + offset ≤ extent.2 + offset by omega)
    (show extent.2 + offset ≤ text.length by omega) none .token
  rw [Int.natCast_add, Int.natCast_add] at made
  rw [Span.token?, made]
  simp only [Except.map, tokenOver, Span.covered, Nat.add_comm offset,
    Nat.add_sub_add_right]

theorem covered_tokenOver {text form : Text} {offset : Nat} {extent : Nat × Nat}
    (stands : text.StandsAt (offset + extent.1) form)
    (stop : extent.2 = extent.1 + form.length) :
    (tokenOver text offset extent).covered text = form :=
  stands.covered_eq rfl (by rw [tokenOver, stop, Nat.add_assoc])

theorem label_tokenOver (text : Text) (offset : Nat) (extent : Nat × Nat) :
    (tokenOver text offset extent).label =
      some ((tokenOver text offset extent).covered text) := by
  simp only [tokenOver, Span.covered, Nat.add_sub_add_left]

/-- What a sentence has to be for the forms that it was made from. -/
structure Holds (text : Text) (forms : List Text) (sentence : Sentence) : Prop where
  covered : sentence.1.map (Span.covered text) = forms
  labelled : sentence.1.map (·.label) = forms.map some
  bounds : ∀ token ∈ sentence.1, sentence.2.start ≤ token.start ∧
    token.start < token.stop ∧ token.stop ≤ sentence.2.stop
  ordered : sentence.1.Pairwise fun token later => token.stop ≤ later.start
  first : sentence.1.head?.map (·.start) = some sentence.2.start
  last : sentence.1.getLast?.map (·.stop) = some sentence.2.stop

def sentenceOver (text : Text) (offset start final : Nat) (extents : List (Nat × Nat)) :
    Sentence where
  fst := extents.map (tokenOver text offset)
  snd := {
    start := offset + start
    stop := offset + final
    role := .sentence }

section

variable {text zone : Text} {offset cursor start stop final : Nat}
  {extents : List (Nat × Nat)}

theorem covered_tokensOver {forms : List Text} (stands : text.StandsAt offset zone)
    (formsStand : List.Forall₂ (fun form extent =>
      zone.StandsAt extent.1 form ∧ extent.2 = extent.1 + form.length) forms extents) :
    (extents.map (tokenOver text offset)).map (Span.covered text) = forms := by
  induction formsStand with
  | nil => rfl
  | cons known later induction =>
      rw [List.map_cons, List.map_cons, induction,
        covered_tokenOver (stands.trans known.1) known.2]

theorem holds_sentenceOver {forms : List Text} (stands : text.StandsAt offset zone)
    (aligned : Aligner.Aligned zone cursor forms ((start, stop) :: extents) final) :
    Holds text forms (sentenceOver text offset start final ((start, stop) :: extents)) := by
  have covered := covered_tokensOver stands aligned.forms_stand
  have separated := aligned.separated
  refine ⟨covered, ?_, ?_, ?_, rfl, ?_⟩
  · rw [← covered, List.map_map]
    exact List.map_congr_left fun token member => by
      rcases List.mem_map.mp member with ⟨extent, _, rfl⟩
      exact label_tokenOver text offset extent
  · intro token member
    rcases List.mem_map.mp member with ⟨extent, inExtents, rfl⟩
    have bounds := aligned.extent_bounds extent inExtents
    have ahead : start ≤ extent.1 := by
      rcases List.mem_cons.mp inExtents with equal | inRest
      · exact equal ▸ Nat.le_refl _
      · have firstBounds := aligned.extent_bounds _ List.mem_cons_self
        have := (List.pairwise_cons.mp separated).1 extent inRest
        exact Nat.le_trans (Nat.le_of_lt firstBounds.2.1) this
    simp only [sentenceOver, tokenOver]
    omega
  · refine List.pairwise_map.mpr (separated.imp fun before => ?_)
    simp only [tokenOver]
    omega
  · rw [sentenceOver, List.getLast?_map, Option.map_map]
    rcases List.getLast?_isSome.mpr (List.cons_ne_nil (start, stop) extents) |>
      Option.isSome_iff_exists.mp with ⟨last, found⟩
    rw [found, Option.map_some]
    simp only [Function.comp, tokenOver, aligned.getLast?_stop found]

theorem tokens_of_aligned {forms : List Text} (inside : offset + zone.length ≤ text.length)
    (aligned : Aligner.Aligned zone cursor forms extents final)
    (finalInside : final ≤ zone.length) :
    (extents.mapM fun extent =>
      Span.token? text (extent.1 + (offset : Int)) (extent.2 + (offset : Int))) =
        .ok (extents.map (tokenOver text offset)) := by
  rw [Result.mapM_eq_ok_iff, List.forall₂_map_right_iff, List.forall₂_same]
  intro extent member
  have := aligned.extent_bounds extent member
  exact token?_of_extent (by omega) (by omega)

theorem alignSentence_of_aligned {first : Text} {others : List Text}
    (stands : text.StandsAt offset zone)
    (aligned : Aligner.Aligned zone cursor (first :: others) ((start, stop) :: extents) final)
    (found : Aligner.alignAll { text := zone, cursor } (first :: others) =
      (.ok ((start, stop) :: extents), { text := zone, cursor := final })) :
    alignSentence text offset { text := zone, cursor } first others =
      .ok (sentenceOver text offset start final ((start, stop) :: extents),
        { text := zone, cursor := final }) := by
  have finalInside : final ≤ zone.length := by
    cases aligned with
    | cons first later => exact later.final_le first.stop_le
  have bounds := aligned.extent_bounds _ List.mem_cons_self
  have inside := stands.length_le (List.ne_nil_of_length_pos (by omega))
  have sentence : Span.sentence? text (start + (offset : Int)) (final + (offset : Int)) =
      .ok (sentenceOver text offset start final ((start, stop) :: extents)).2 := by
    have made := Span.make?_natCast (show start + offset ≤ final + offset by omega)
      (show final + offset ≤ text.length by omega) none .sentence
    rw [Int.natCast_add, Int.natCast_add, Nat.add_comm start, Nat.add_comm final] at made
    exact made
  simp only [alignSentence, aligned.locate_first, found, sentence,
    tokens_of_aligned inside aligned finalInside]
  rfl

theorem alignSentence_of_missing {first : Text} {others : List Text} {aligner after : Aligner}
    {zoneStart : Int} {error : AlignmentError}
    (missing : aligner.alignAll (first :: others) = (.error error, after)) :
    ∃ error, alignSentence text zoneStart aligner first others = .error (.alignment error) := by
  unfold alignSentence
  rw [missing]
  cases aligner.locate first with
  | error earlier => exact ⟨earlier, rfl⟩
  | ok start => exact ⟨error, rfl⟩

theorem alignSentence_cases (stands : text.StandsAt offset zone) (inside : cursor ≤ zone.length)
    (first : Text) (others : List Text) :
    (∃ error, alignSentence text offset { text := zone, cursor } first others =
      .error (.alignment error)) ∨
    ∃ sentence, ∃ final : Nat,
      alignSentence text offset { text := zone, cursor } first others =
        .ok (sentence, { text := zone, cursor := final }) ∧
      Holds text (first :: others) sentence ∧
      offset + cursor ≤ sentence.2.start ∧ sentence.2.stop = offset + final ∧
      final ≤ zone.length := by
  rcases Aligner.alignAll_cases zone cursor (first :: others) with ⟨error, after, failed⟩ |
    ⟨extents, final, aligned, found⟩
  · exact Or.inl (alignSentence_of_missing failed)
  · have finalInside := aligned.final_le inside
    cases aligned with
    | cons firstAt later =>
        have whole := Aligner.Aligned.cons firstAt later
        refine Or.inr ⟨_, final, alignSentence_of_aligned stands whole found,
          holds_sentenceOver stands whole, ?_, rfl, finalInside⟩
        have := firstAt.reached
        simp only [sentenceOver]
        omega

end

theorem Holds.forward {text : Text} {forms : List Text} {sentence : Sentence}
    (holds : Holds text forms sentence) : sentence.2.start < sentence.2.stop := by
  rcases Option.map_eq_some_iff.mp holds.first with ⟨token, found, _⟩
  have bounds := holds.bounds token (List.mem_of_head? found)
  omega

/-! ## All sentences -/

/-- Sentences made from the form lists of an answer, one behind the other between two
offsets. A list without forms has no sentence. -/
structure Laid (text : Text) (lower upper : Nat) (answered : List (List Text))
    (sentences : List Sentence) : Prop where
  each : List.Forall₂ (Holds text) (answered.filter (· ≠ [])) sentences
  apart : sentences.Pairwise fun sentence later => sentence.2.stop ≤ later.2.start
  inside : ∀ sentence ∈ sentences, lower ≤ sentence.2.start ∧ sentence.2.stop ≤ upper

theorem Laid.skip {text : Text} {lower upper : Nat} {rest : List (List Text)}
    {sentences : List Sentence} (laid : Laid text lower upper rest sentences) :
    Laid text lower upper ([] :: rest) sentences :=
  ⟨laid.each, laid.apart, laid.inside⟩

theorem Laid.cons {text : Text} {lower middle upper : Nat} {first : Text}
    {others : List Text} {rest : List (List Text)} {sentence : Sentence}
    {sentences : List Sentence} (holds : Holds text (first :: others) sentence)
    (start : lower ≤ sentence.2.start) (stop : sentence.2.stop = middle)
    (bounded : middle ≤ upper) (later : Laid text middle upper rest sentences) :
    Laid text lower upper ((first :: others) :: rest) (sentence :: sentences) where
  each := .cons holds later.each
  apart := List.pairwise_cons.mpr
    ⟨fun other member => stop ▸ (later.inside other member).1, later.apart⟩
  inside other member := by
    have forward := holds.forward
    rcases List.mem_cons.mp member with equal | inRest
    · subst equal
      omega
    · have := later.inside other inRest
      omega

theorem alignSentences_cases {text zone : Text} {offset cursor : Nat}
    (stands : text.StandsAt offset zone) (inside : cursor ≤ zone.length)
    (answered : List (List Text)) :
    (∃ error, alignSentences text offset { text := zone, cursor } answered =
      .error (.alignment error)) ∨
    ∃ sentences, alignSentences text offset { text := zone, cursor } answered = .ok sentences ∧
      Laid text (offset + cursor) (offset + zone.length) answered sentences := by
  -- The cursor behind one sentence is the lower bound of the sentences after it.
  induction answered generalizing cursor with
  | nil => exact Or.inr ⟨[], rfl, .nil, .nil, nofun⟩
  | cons forms rest induction =>
      cases forms with
      | nil =>
          rcases induction inside with failed | ⟨sentences, found, laid⟩
          · exact Or.inl failed
          · exact Or.inr ⟨sentences, found, laid.skip⟩
      | cons first others =>
          rcases alignSentence_cases stands inside first others with ⟨error, failed⟩ |
            ⟨sentence, final, found, holds, start, stop, finalInside⟩
          · refine Or.inl ⟨error, ?_⟩
            simp only [alignSentences, failed]
          · rcases induction finalInside with ⟨error, failed⟩ | ⟨sentences, laterFound, laid⟩
            · refine Or.inl ⟨error, ?_⟩
              simp only [alignSentences, found, failed, Except.map]
            · refine Or.inr ⟨sentence :: sentences, ?_, ?_⟩
              · simp only [alignSentences, found, laterFound, Except.map]
              · exact .cons holds start stop (Nat.add_le_add_left finalInside offset) laid

/-- When the zone counts from the end of the text, no form of it gets an offset. -/
theorem alignSentence_of_negative {text zone first : Text} {cursor : Nat}
    {others : List Text} {zoneStart : Int} (negative : zoneStart + zone.length ≤ 0)
    (result : Sentence × Aligner) :
    alignSentence text zoneStart { text := zone, cursor } first others ≠ .ok result := by
  intro done
  rcases Aligner.alignAll_cases zone cursor (first :: others) with ⟨error, after, failed⟩ |
    ⟨extents, final, aligned, found⟩
  · rcases @alignSentence_of_missing text _ _ _ _ zoneStart _ failed with ⟨_, missing⟩
    cases missing.symm.trans done
  · have whole := aligned
    cases aligned with
    | cons firstAt later =>
        simp only [alignSentence, whole.locate_first, found, Result.bind_eq_ok_iff,
          Result.mapError_eq_ok_iff, Result.mapM_eq_ok_iff] at done
        -- The first form stands inside the zone, which is no longer than its distance
        -- from the end of the text, so that the form's offset comes out negative.
        rcases done with ⟨tokens, made, _⟩
        rcases List.forall₂_cons_left_iff.mp made with ⟨token, _, firstMade, _⟩
        rcases Result.map_eq_ok_iff.mp firstMade with ⟨span, spanMade, _⟩
        have bounds := (Span.make?_eq_ok_iff.mp spanMade).1
        have inside := firstAt.stop_le
        have width := List.length_pos_of_ne_nil firstAt.nonempty
        omega

theorem alignSentences_of_negative {text zone : Text} {zoneStart : Int}
    (negative : zoneStart + zone.length ≤ 0) (lower upper : Nat)
    {answered : List (List Text)} {sentences : List Sentence}
    (found : alignSentences text zoneStart { text := zone } answered = .ok sentences) :
    Laid text lower upper answered sentences := by
  induction answered with
  | nil =>
      cases found
      exact ⟨.nil, .nil, nofun⟩
  | cons forms rest induction =>
      cases forms with
      | nil => exact (induction found).skip
      | cons first others =>
          unfold alignSentences at found
          cases aligned : alignSentence text zoneStart { text := zone } first others with
          | error failure =>
              rw [aligned] at found
              cases found
          | ok result => exact absurd aligned (alignSentence_of_negative negative result)

/-! ## The tiers -/

/-- What the tiers of a segmentation have to be for the form lists of an answer. Each
of `groups` holds the tokens of one sentence. -/
structure Faithful (text : Text) (lower upper : Nat) (answered : List (List Text))
    (tokens sentences : Tier) (groups : List Tier) : Prop where
  covered : tokens.map (Span.covered text) = answered.flatten
  labelled : tokens.map (·.label) = answered.flatten.map some
  inside : ∀ token ∈ tokens,
    lower ≤ token.start ∧ token.start < token.stop ∧ token.stop ≤ upper
  ordered : tokens.Pairwise fun token later => token.stop ≤ later.start
  divided : tokens = groups.flatten
  forms : groups.map (List.map (Span.covered text)) = answered.filter (· ≠ [])
  bounds : List.Forall₂ (fun sentence group =>
    group.head?.map (·.start) = some sentence.start ∧
      group.getLast?.map (·.stop) = some sentence.stop) sentences groups
  apart : sentences.Pairwise fun sentence later => sentence.stop ≤ later.start
  grouped : Tier.group sentences tokens = sentences.zip groups

section

variable {text : Text} {lower upper : Nat} {answered : List (List Text)}
  {sentences : List Sentence}

theorem Laid.holds (laid : Laid text lower upper answered sentences) {sentence : Sentence}
    (member : sentence ∈ sentences) : ∃ forms, Holds text forms sentence := by
  rcases List.exists_left_of_forall₂ laid.each member with ⟨forms, _, holds⟩
  exact ⟨forms, holds⟩

theorem Laid.covered (laid : Laid text lower upper answered sentences) :
    (sentences.map fun sentence => sentence.1.map (Span.covered text)) =
      answered.filter (· ≠ []) := by
  have same := List.map_eq_of_forall₂ laid.each fun holds => holds.covered
  rw [same, List.map_id']

theorem Laid.labelled (laid : Laid text lower upper answered sentences) :
    (sentences.map fun sentence => sentence.1.map (·.label)) =
      (answered.filter (· ≠ [])).map (List.map some) :=
  List.map_eq_of_forall₂ laid.each fun holds => holds.labelled

theorem Laid.ordered (laid : Laid text lower upper answered sentences) :
    (sentences.flatMap (·.1)).Pairwise fun token later => token.stop ≤ later.start := by
  refine List.pairwise_flatMap.mpr ⟨?_, laid.apart.imp_of_mem ?_⟩
  · intro sentence member
    rcases laid.holds member with ⟨forms, holds⟩
    exact holds.ordered
  · intro sentence later member laterMember before token inSentence other inLater
    rcases laid.holds member with ⟨forms, holds⟩
    rcases laid.holds laterMember with ⟨laterForms, laterHolds⟩
    have here := holds.bounds token inSentence
    have there := laterHolds.bounds other inLater
    omega

theorem Laid.parted (laid : Laid text lower upper answered sentences) :
    Tier.Parted (sentences.map Prod.swap) where
  forward part member := by
    rcases List.mem_map.mp member with ⟨sentence, inSentences, rfl⟩
    rcases laid.holds inSentences with ⟨forms, holds⟩
    exact Nat.le_of_lt holds.forward
  apart := List.pairwise_map.mpr laid.apart
  inside part member token inPart := by
    rcases List.mem_map.mp member with ⟨sentence, inSentences, rfl⟩
    rcases laid.holds inSentences with ⟨forms, holds⟩
    have bounds := holds.bounds token inPart
    rw [Tier.reaches_iff]
    simp only [Prod.fst_swap]
    omega
  ordered part member := by
    rcases List.mem_map.mp member with ⟨sentence, inSentences, rfl⟩
    rcases laid.holds inSentences with ⟨forms, holds⟩
    refine holds.ordered.imp_of_mem fun inTokens _ before => ?_
    have bounds := holds.bounds _ inTokens
    omega

theorem Laid.faithful (laid : Laid text lower upper answered sentences) :
    Faithful text lower upper answered (sentences.flatMap (·.1)) (sentences.map (·.2))
      (sentences.map (·.1)) where
  covered := by
    rw [List.map_flatMap, List.flatMap_def, laid.covered, List.flatten_filter_ne_nil]
  labelled := by
    rw [List.map_flatMap, List.flatMap_def, laid.labelled, ← List.map_flatten,
      List.flatten_filter_ne_nil]
  inside token member := by
    rcases List.mem_flatMap.mp member with ⟨sentence, inSentences, inTokens⟩
    rcases laid.holds inSentences with ⟨forms, holds⟩
    have bounds := holds.bounds token inTokens
    have within := laid.inside sentence inSentences
    omega
  ordered := laid.ordered
  divided := List.flatMap_def
  forms := by
    rw [List.map_map]
    exact laid.covered
  bounds := by
    rw [List.forall₂_map_left_iff, List.forall₂_map_right_iff, List.forall₂_same]
    intro sentence member
    rcases laid.holds member with ⟨forms, holds⟩
    exact ⟨holds.first, holds.last⟩
  apart := List.pairwise_map.mpr laid.apart
  grouped := by
    have grouped := laid.parted.group_eq
    rw [List.map_map, List.flatMap_map] at grouped
    rw [List.zip_map']
    exact grouped

end

/-! ## The annotator -/

namespace Segmenter

variable {μ : Type}

def lower (segmenter : Segmenter μ) (text : Text) : Nat :=
  Text.offsetOf text.length segmenter.zoneStart

def upper (segmenter : Segmenter μ) (text : Text) : Nat :=
  min (Text.offsetOf text.length (segmenter.zoneStop.getD text.length)) text.length

theorem standsAt_zone (segmenter : Segmenter μ) (text : Text) :
    text.StandsAt (segmenter.lower text) (segmenter.zone text) :=
  Text.standsAt_slice text _ _

theorem length_zone (segmenter : Segmenter μ) (text : Text) :
    (segmenter.zone text).length = segmenter.upper text - segmenter.lower text :=
  Text.length_slice text _ _

theorem alignSentences_zone {segmenter : Segmenter μ} (positive : 0 ≤ segmenter.zoneStart)
    (text : Text) (answered : List (List Text)) :
    (∃ error, alignSentences text segmenter.zoneStart { text := segmenter.zone text } answered =
      .error (.alignment error)) ∨
    ∃ sentences, alignSentences text segmenter.zoneStart { text := segmenter.zone text }
        answered = .ok sentences ∧
      Laid text (segmenter.lower text) (segmenter.upper text) answered sentences := by
  rcases Int.eq_ofNat_of_zero_le positive with ⟨offset, zoneStart⟩
  have stands := segmenter.standsAt_zone text
  have length := segmenter.length_zone text
  have lower : segmenter.lower text = offset := by
    rw [Segmenter.lower, zoneStart, Text.offsetOf_natCast]
  rw [lower] at stands length ⊢
  rw [zoneStart]
  rcases alignSentences_cases stands (Nat.zero_le _) answered with failed |
    ⟨sentences, found, laid⟩
  · exact Or.inl failed
  · refine Or.inr ⟨sentences, found, laid.each, laid.apart, fun sentence member => ?_⟩
    rcases laid.holds member with ⟨forms, holds⟩
    have forward := holds.forward
    have within := laid.inside sentence member
    omega

theorem trouble_of_align {segmenter : Segmenter μ} {text : Text} {answer : Answer}
    {sentences : List Sentence} (found : segmenter.align text answer = .ok sentences) :
    answer.trouble = none := by
  rcases Result.bind_eq_ok_iff.mp found with ⟨_, _, finished⟩
  cases trouble : answer.trouble with
  | none => rfl
  | some report =>
      rw [trouble] at finished
      cases finished

theorem laid_of_align {segmenter : Segmenter μ} {text : Text} {answer : Answer}
    {sentences : List Sentence} (found : segmenter.align text answer = .ok sentences) :
    Laid text (segmenter.lower text) (segmenter.upper text) answer.sentences sentences := by
  rcases Result.bind_eq_ok_iff.mp found with ⟨others, aligned, finished⟩
  rw [trouble_of_align found] at finished
  obtain rfl : others = sentences := Except.ok.inj finished
  by_cases positive : 0 ≤ segmenter.zoneStart
  · rcases alignSentences_zone positive text answer.sentences with
      ⟨error, failed⟩ | ⟨sentences, done, laid⟩
    · cases failed.symm.trans aligned
    · cases done.symm.trans aligned
      exact laid
  · have length := segmenter.length_zone text
    refine alignSentences_of_negative ?_ _ _ aligned
    rw [length, upper, lower, Text.offsetOf, Text.offsetOf, if_pos (Int.not_le.mp positive)]
    omega

theorem failure_of_align {segmenter : Segmenter μ} (positive : 0 ≤ segmenter.zoneStart)
    {text : Text} {answer : Answer} {failure : Failure}
    (failed : segmenter.align text answer = .error failure) :
    (∃ error, failure = .alignment error) ∨ ∃ report, failure = .tokenizer report := by
  unfold align at failed
  rcases alignSentences_zone positive text answer.sentences with
    ⟨error, missing⟩ | ⟨sentences, done, _⟩
  · rw [missing] at failed
    cases failed
    exact Or.inl ⟨error, rfl⟩
  · rw [done] at failed
    cases trouble : answer.trouble with
    | none =>
        rw [trouble] at failed
        cases failed
    | some report =>
        rw [trouble] at failed
        cases failed
        exact Or.inr ⟨report, rfl⟩

def tiersOf (sentences : List Sentence) : Tiers :=
  [("tokens", sentences.flatMap (·.1)), ("sentences", sentences.map (·.2))]

theorem annotator_result (segmenter : Segmenter μ) (surroundings : Surroundings μ)
    (document : Document) (state : State μ) :
    (segmenter.annotator surroundings document state).result =
      (segmenter.model surroundings document state).1.bind fun model =>
        match surroundings.tokenize model (segmenter.zone document.text) with
        | none => .error .noTokenizer
        | some answer =>
            (segmenter.align document.text answer).map fun sentences =>
              some (tiersOf sentences) := by
  unfold annotator
  rcases segmenter.model surroundings document state with ⟨chosen, after⟩
  cases chosen with
  | error failure => rfl
  | ok model =>
      simp only [Except.bind]
      cases surroundings.tokenize model (segmenter.zone document.text) with
      | none => rfl
      | some answer =>
          simp only
          cases segmenter.align document.text answer <;> rfl

theorem exists_align_of_annotator {segmenter : Segmenter μ} {surroundings : Surroundings μ}
    {document : Document} {state : State μ} {made : Option Tiers}
    (returned : (segmenter.annotator surroundings document state).result = .ok made) :
    ∃ model answer sentences, (segmenter.model surroundings document state).1 = .ok model ∧
      surroundings.tokenize model (segmenter.zone document.text) = some answer ∧
      segmenter.align document.text answer = .ok sentences ∧ made = some (tiersOf sentences) := by
  rw [annotator_result] at returned
  rcases Result.bind_eq_ok_iff.mp returned with ⟨model, chosen, answering⟩
  cases answered : surroundings.tokenize model (segmenter.zone document.text) with
  | none =>
      rw [answered] at answering
      cases answering
  | some answer =>
      rw [answered] at answering
      rcases Result.map_eq_ok_iff.mp answering with ⟨sentences, aligned, rfl⟩
      exact ⟨model, answer, sentences, chosen, answered, aligned, rfl⟩

/-- Tiers that are made are faithful to the answer, whatever the tokenizer answers.
Where the zone does not count from the end of the text, nothing fails but the search
for a form and the tokenizer. -/
theorem annotator_faithful (segmenter : Segmenter μ) (surroundings : Surroundings μ)
    (document : Document) (state : State μ) :
    (∀ made, (segmenter.annotator surroundings document state).result = .ok made →
      ∃ model answer tokens sentences groups,
        (segmenter.model surroundings document state).1 = .ok model ∧
        surroundings.tokenize model (segmenter.zone document.text) = some answer ∧
        made = some [("tokens", tokens), ("sentences", sentences)] ∧
        Faithful document.text (segmenter.lower document.text)
          (segmenter.upper document.text) answer.sentences tokens sentences groups) ∧
    (∀ model failure, (segmenter.model surroundings document state).1 = .ok model →
      0 ≤ segmenter.zoneStart →
      (segmenter.annotator surroundings document state).result = .error failure →
      (∃ error, failure = .alignment error) ∨ failure = .noTokenizer ∨
        ∃ report, failure = .tokenizer report) := by
  rw [annotator_result]
  constructor
  · intro made returned
    rcases Result.bind_eq_ok_iff.mp returned with ⟨model, chosen, returned⟩
    cases answered : surroundings.tokenize model (segmenter.zone document.text) with
    | none =>
        rw [answered] at returned
        cases returned
    | some answer =>
        rw [answered] at returned
        rcases Result.map_eq_ok_iff.mp returned with ⟨sentences, aligned, rfl⟩
        exact ⟨model, answer, _, _, _, chosen, answered, rfl, (laid_of_align aligned).faithful⟩
  · intro model failure chosen positive failed
    rw [chosen, Except.bind] at failed
    cases answered : surroundings.tokenize model (segmenter.zone document.text) with
    | none =>
        rw [answered] at failed
        cases failed
        exact Or.inr (Or.inl rfl)
    | some answer =>
        rw [answered] at failed
        rcases failure_of_align positive (Result.map_eq_error_iff.mp failed) with
          missing | broken
        · exact Or.inl missing
        · exact Or.inr (Or.inr broken)

/-- A zone behind the first occurrence of a form, and a list without forms between two
sentences that touch. -/
theorem annotator_faithful_in_zone :
    let segmenter : Segmenter Unit := { given := some (), zoneStart := 3, zoneStop := some 100 }
    let surroundings : Surroundings Unit := {
      files := []
      directory := []
      load := fun _ => none
      tokenize := fun _ _ =>
        some { sentences := [["ab".toList], [], [['c'], ['d']]] } }
    let document : Document := { text := "ab abcd".toList }
    ∃ tokens sentences groups,
      (segmenter.annotator surroundings document {}).result =
        .ok (some [("tokens", tokens), ("sentences", sentences)]) ∧
      Faithful document.text 3 7 [["ab".toList], [], [['c'], ['d']]] tokens sentences groups := by
  intro segmenter surroundings document
  rcases (segmenter.annotator_faithful surroundings document {}).1 _ rfl with
    ⟨model, answer, tokens, sentences, groups, _, answered, made, faithful⟩
  cases answered
  exact ⟨tokens, sentences, groups, congrArg Except.ok made, faithful⟩

end Segmenter

end Standoff.Forms
