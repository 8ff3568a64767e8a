import Standoff.Proofs.Annotate.Pipeline
import Standoff.Proofs.Containment
import Standoff.Proofs.Overlap
import Standoff.Proofs.Standing

/-! A pipeline keeps what can be seen. Where its tokens stand in the text one behind the other,
nothing fails, and no token is lost but those that begin with white space, whether these open,
close or interrupt a sentence or are all that there is of it. -/

namespace Standoff

theorem Span.exists_sentenceOf? {text : Text} {spans : List Span} (separate : Tier.Separate spans)
    (within : ∀ span ∈ spans, span.Within text) (nonempty : spans ≠ []) :
    ∃ sentence, Span.sentenceOf? text spans = some (.ok sentence) := by
  have isFirst := List.head?_eq_some_head nonempty
  have isLast := List.getLast?_eq_some_getLast nonempty
  have member := List.getLast_mem nonempty
  have inFront := separate.start_le isFirst member
  rcases within _ member with ⟨forward, inside⟩
  rw [Span.sentenceOf?, isFirst, isLast]
  exact ⟨_, congrArg some (Span.make?_natCast (Nat.le_trans inFront forward) inside none .sentence)⟩

namespace Pipeline

/-! ## Answers about a text -/

/-- A token that is in the text where the pipeline has found it. -/
structure Token.Placed (text : Text) (token : Token) : Prop where
  nonempty : token.form ≠ []
  positive : 0 ≤ token.offset
  slice_eq : Text.slice text token.offset (token.offset + token.form.length) = token.form

instance (text : Text) (token : Token) : Decidable (token.Placed text) :=
  decidable_of_iff (token.form ≠ [] ∧ 0 ≤ token.offset ∧
      Text.slice text token.offset (token.offset + token.form.length) = token.form)
    ⟨fun ⟨nonempty, positive, slice⟩ => ⟨nonempty, positive, slice⟩,
      fun placed => ⟨placed.nonempty, placed.positive, placed.slice_eq⟩⟩

def Token.Before (token later : Token) : Prop :=
  token.offset + token.form.length ≤ later.offset

instance (token later : Token) : Decidable (token.Before later) := by
  unfold Token.Before
  infer_instance

/-- Tokens that are in the text one behind the other. -/
structure InOrder (text : Text) (tokens : List Token) : Prop where
  placed : ∀ token ∈ tokens, token.Placed text
  apart : tokens.Pairwise Token.Before

theorem InOrder.sublist {text : Text} {tokens kept : List Token} (inOrder : InOrder text tokens)
    (sublist : kept.Sublist tokens) : InOrder text kept where
  placed token member := inOrder.placed token (sublist.subset member)
  apart := inOrder.apart.sublist sublist

section

variable {text : Text} {token : Token} {span : Span}

theorem Token.Placed.standsAt (placed : token.Placed text) :
    ∃ start : Nat, token.offset = start ∧ text.StandsAt start token.form := by
  rcases Int.eq_ofNat_of_zero_le placed.positive with ⟨start, offset⟩
  have stands := Text.standsAt_slice text token.offset (token.offset + token.form.length)
  rw [placed.slice_eq, offset, Text.offsetOf_natCast] at stands
  exact ⟨start, offset, stands⟩

theorem Token.Placed.exists_span (placed : token.Placed text) :
    ∃ span, Span.token? text token.offset (token.offset + token.form.length) = .ok span := by
  rcases placed.standsAt with ⟨start, offset, stands⟩
  rw [offset]
  exact ⟨_, Span.token?_of_standsAt stands (stands.length_le placed.nonempty)⟩

/-- The span of a token that shows the token's form, and is labelled with it. -/
structure Shows (text : Text) (token : Token) (span : Span) : Prop extends
    Stands text token span where
  covered : span.covered text = token.form

theorem Stands.shows (stands : Stands text token span) (placed : token.Placed text) :
    Shows text token span := by
  rcases placed.standsAt with ⟨start, offset, formStands⟩
  have here := stands.start
  have there := stands.stop
  refine ⟨stands, formStands.covered_eq ?_ ?_⟩ <;> omega

end

/-! ## One part of an answer -/

section

variable {text : Text} {part : List Token}

theorem separate_of_stands {spans : List Span} (stands : List.Forall₂ (Stands text) part spans)
    (apart : part.Pairwise Token.Before) : Tier.Separate spans where
  forward span member := by
    rcases List.exists_left_of_forall₂ stands member with ⟨token, _, here⟩
    exact here.within.1
  apart := by
    apply List.pairwise_of_forall₂ stands apart
    intro token later span laterSpan here there before
    have stop := here.stop
    have start := there.start
    unfold Token.Before at before
    omega

theorem InOrder.exists_segmentSentence (inOrder : InOrder text part) :
    ∃ result, segmentSentence text part = .ok result := by
  have kept := inOrder.sublist (List.filter_sublist (p := Token.visible))
  rcases List.exists_forall₂ fun token member => (kept.placed token member).exists_span
    with ⟨spans, made⟩
  have stands := made.imp fun _ _ => stands_of_token?
  rw [segmentSentence, Result.mapM_eq_ok_iff.mpr made]
  by_cases nonempty : spans = []
  · rw [nonempty]
    exact ⟨none, rfl⟩
  · have within : ∀ span ∈ spans, span.Within text := by
      intro span member
      rcases List.exists_left_of_forall₂ stands member with ⟨token, _, here⟩
      exact here.within
    rcases Span.exists_sentenceOf? (separate_of_stands stands kept.apart) within nonempty
      with ⟨sentence, found⟩
    refine ⟨some (spans, sentence), ?_⟩
    simp only [bind, Except.bind, found]
    rfl

variable {found : List Span × Span}

theorem Segments.separate (segments : Segments text part found) (inOrder : InOrder text part) :
    Tier.Separate found.1 :=
  separate_of_stands segments.tokens inOrder.apart

theorem Segments.reaches (segments : Segments text part found) (inOrder : InOrder text part)
    {span : Span} (member : span ∈ found.1) : Tier.reaches found.2 span := by
  rcases Option.map_eq_some_iff.mp segments.first with ⟨first, isFirst, start⟩
  rcases Option.map_eq_some_iff.mp segments.last with ⟨last, isLast, stop⟩
  rcases List.exists_left_of_forall₂ segments.tokens member with ⟨token, inPart, stands⟩
  have inFront := (segments.separate inOrder).start_le isFirst member
  have behind := (segments.separate inOrder).stop_le isLast member
  -- No token is empty, so that it starts in front of the sentence's end.
  have width := List.length_pos_of_ne_nil (inOrder.placed token inPart).nonempty
  have here := stands.start
  have there := stands.stop
  rw [Tier.reaches_iff]
  omega

theorem Segments.shows (segments : Segments text part found) (inOrder : InOrder text part) :
    List.Forall₂ (Shows text) part found.1 := by
  have each := (List.forall₂_and_left _ _).mpr ⟨inOrder.placed, segments.tokens⟩
  exact each.imp fun _ _ both => both.2.shows both.1

theorem Segments.forward (segments : Segments text part found) (inOrder : InOrder text part) :
    found.2.start ≤ found.2.stop := by
  rcases Option.map_eq_some_iff.mp segments.first with ⟨first, isFirst, start⟩
  have reached := Tier.reaches_iff.mp (segments.reaches inOrder (List.mem_of_head? isFirst))
  omega

theorem Segments.apart (segments : Segments text part found) {later : List Token}
    {laterFound : List Span × Span} (laterSegments : Segments text later laterFound)
    (before : ∀ token ∈ part, ∀ other ∈ later, token.Before other) :
    found.2.stop ≤ laterFound.2.start := by
  rcases Option.map_eq_some_iff.mp segments.last with ⟨last, isLast, stop⟩
  rcases Option.map_eq_some_iff.mp laterSegments.first with ⟨first, isFirst, start⟩
  rcases List.exists_left_of_forall₂ segments.tokens (List.mem_of_getLast? isLast)
    with ⟨token, inPart, stands⟩
  rcases List.exists_left_of_forall₂ laterSegments.tokens (List.mem_of_head? isFirst)
    with ⟨other, inLater, laterStands⟩
  have ends := stands.stop
  have begins := laterStands.start
  have between := before token inPart other inLater
  unfold Token.Before at between
  omega

end

/-! ## All parts of an answer -/

section

variable {text : Text} {answer : Answer} {parts : List (List Token)}
  {found : List (List Span × Span)}

theorem InOrder.of_mem (inOrder : InOrder text parts.flatten) {part : List Token}
    (member : part ∈ parts) : InOrder text part :=
  inOrder.sublist (List.sublist_flatten_of_mem member)

theorem InOrder.exists_segment (inOrder : InOrder text answer.flatten) :
    ∃ tokens sentences, segment text answer = .ok (tokens, sentences) := by
  rcases List.exists_forall₂ fun part member => (inOrder.of_mem member).exists_segmentSentence
    with ⟨results, each⟩
  rw [segment, Result.mapM_eq_ok_iff.mpr each]
  exact ⟨_, _, rfl⟩

section

variable (segments : List.Forall₂ (Segments text) parts found) (inOrder : InOrder text parts.flatten)

include segments inOrder

theorem exists_part {sentence : List Span × Span} (member : sentence ∈ found) :
    ∃ part, Segments text part sentence ∧ InOrder text part := by
  rcases List.exists_left_of_forall₂ segments member with ⟨part, inParts, here⟩
  exact ⟨part, here, inOrder.of_mem inParts⟩

theorem parted_of_segments : Tier.Parted (found.map Prod.swap) where
  forward swapped member := by
    rcases List.mem_map.mp member with ⟨sentence, inFound, rfl⟩
    rcases exists_part segments inOrder inFound with ⟨part, here, partInOrder⟩
    exact here.forward partInOrder
  apart := by
    rw [List.pairwise_map]
    apply List.pairwise_of_forall₂ segments (List.pairwise_flatten.mp inOrder.apart).2
    intro part later sentence laterSentence here there before
    exact here.apart there before
  inside swapped member span inSentence := by
    rcases List.mem_map.mp member with ⟨sentence, inFound, rfl⟩
    rcases exists_part segments inOrder inFound with ⟨part, here, partInOrder⟩
    exact here.reaches partInOrder inSentence
  ordered swapped member := by
    rcases List.mem_map.mp member with ⟨sentence, inFound, rfl⟩
    rcases exists_part segments inOrder inFound with ⟨part, here, partInOrder⟩
    exact (here.separate partInOrder).sorted.startsOrdered

theorem shows_of_segments :
    List.Forall₂ (List.Forall₂ (Shows text)) parts (found.map (·.1)) := by
  rw [List.forall₂_map_right_iff]
  have each := (List.forall₂_and_left _ _).mpr ⟨fun _ member => inOrder.of_mem member, segments⟩
  exact each.imp fun _ _ both => both.2.shows both.1

end

end

/-! ## The annotator -/

def Token.beginsBlank (token : Token) : Bool := token.form.head?.any Text.isSpace

theorem Token.visible_eq (token : Token) : token.visible = !token.beginsBlank := by
  unfold visible beginsBlank
  cases token.form.head? <;> rfl

/-- What tiers have to be that have lost nothing of an answer but tokens that begin with white
space. Each of `groups` holds the tokens of one sentence. -/
structure Keeps (text : Text) (answer : Answer) (tokens sentences : Tier)
    (groups : List Tier) : Prop where
  shown : List.Forall₂ (Shows text)
    (answer.flatten.filter fun token => !token.beginsBlank) tokens
  parts : List.Forall₂ (List.Forall₂ (Shows text))
    ((answer.map (List.filter fun token => !token.beginsBlank)).filter (· ≠ [])) groups
  bounds : List.Forall₂ (fun sentence group =>
    group.head?.map (·.start) = some sentence.start ∧
      group.getLast?.map (·.stop) = some sentence.stop ∧
      sentence.role = .sentence) sentences groups
  tokensSorted : tokens.Sorted
  tokensApart : tokens.hasOverlaps = false
  sentencesSorted : sentences.Sorted
  sentencesApart : sentences.hasOverlaps = false
  grouped : Tier.group sentences tokens = sentences.zip groups
  regrouped : (Tier.group sentences tokens).flatMap (·.2) = tokens

section

variable {text : Text} {answer : Answer} {found : List (List Span × Span)}

theorem visibleParts_eq (answer : Answer) : visibleParts answer =
    (answer.map (List.filter fun token => !token.beginsBlank)).filter (· ≠ []) := by
  simp only [visibleParts, ← Token.visible_eq]

theorem flatten_visibleParts (answer : Answer) :
    (visibleParts answer).flatten = answer.flatten.filter fun token => !token.beginsBlank := by
  rw [visibleParts_eq, List.flatten_filter_ne_nil, List.filter_flatten]

theorem keeps_of_segments (inOrder : InOrder text answer.flatten)
    (segments : List.Forall₂ (Segments text) (visibleParts answer) found) :
    Keeps text answer (found.flatMap (·.1)) (found.map (·.2)) (found.map (·.1)) := by
  have kept : InOrder text (visibleParts answer).flatten :=
    flatten_visibleParts answer ▸ inOrder.sublist List.filter_sublist
  have parts := shows_of_segments segments kept
  have shown : List.Forall₂ (Shows text) (visibleParts answer).flatten
      (found.flatMap (·.1)) := List.rel_flatten parts
  have tokensSeparate : Tier.Separate (found.flatMap (·.1)) :=
    separate_of_stands (shown.imp fun _ _ here => here.toStands) kept.apart
  have parted := parted_of_segments segments kept
  have sentencesSeparate := parted.separate
  have grouped := parted.group_eq
  rw [List.map_map] at sentencesSeparate grouped
  rw [List.flatMap_map] at grouped
  exact {
    shown := flatten_visibleParts answer ▸ shown
    parts := visibleParts_eq answer ▸ parts
    bounds := by
      rw [List.forall₂_map_left_iff, List.forall₂_map_right_iff, List.forall₂_same]
      intro sentence member
      rcases List.exists_left_of_forall₂ segments member with ⟨part, _, here⟩
      exact ⟨here.first, here.last, here.role⟩
    tokensSorted := tokensSeparate.sorted
    tokensApart := tokensSeparate.hasOverlaps_eq_false
    sentencesSorted := sentencesSeparate.sorted
    sentencesApart := sentencesSeparate.hasOverlaps_eq_false
    grouped := by
      rw [List.zip_map']
      exact grouped
    regrouped := by
      have regrouped := congrArg (List.flatMap (·.2)) grouped
      rwa [List.flatMap_map] at regrouped }

end

/-- When the tokens of an answer are in the text one behind the other, nothing fails, and the
tiers have all of them in order but those that begin with white space. Each part of the answer
with such tokens has a sentence, which goes from its first to its last one and gives back just
these. -/
theorem annotator_keeps_visible (options : Options) {answer : Answer} {document : Document}
    (inOrder : InOrder document.text answer.flatten) (shelf : Shelf) :
    ∃ tokens sentences groups, annotator options answer none document shelf =
        ⟨.ok (some [("tokens", tokens), ("sentences", sentences)]), document,
          shelf.call (options.languageFor document)⟩ ∧
      Keeps document.text answer tokens sentences groups := by
  rcases inOrder.exists_segment with ⟨tokens, sentences, segmented⟩
  rcases complete_of_segment segmented with ⟨_, found, segments, made⟩
  cases made
  refine ⟨_, _, _, ?_, keeps_of_segments inOrder segments⟩
  simp only [annotator, segmented]

/-- White space opens, interrupts and closes a sentence, is all that there is of the next, and
is inside and behind a token of the last, which touches the one in front of it. -/
theorem annotator_keeps_visible_among_blanks :
    let document : Document := { text := " a b\n\n  c.  d ".toList }
    let answer : Answer := [
      [⟨0, [' ']⟩, ⟨1, ['a']⟩, ⟨2, [' ']⟩, ⟨3, ['b']⟩, ⟨4, ['\n', '\n']⟩],
      [⟨6, [' ', ' ']⟩], [⟨8, ['c']⟩], [⟨9, ['.']⟩, ⟨10, [' ']⟩, ⟨12, ['d', ' ']⟩]]
    ∃ tokens sentences groups,
      InOrder document.text answer.flatten ∧
      (annotator {} answer none document {}).result =
        .ok (some [("tokens", tokens), ("sentences", sentences)]) ∧
      Keeps document.text answer tokens sentences groups ∧
      tokens.map (·.label) = [some ['a'], some ['b'], some ['c'], some ['.'], some ['d', ' ']] ∧
      sentences.map (fun sentence => (sentence.start, sentence.stop)) =
        [(1, 4), (8, 9), (9, 14)] := by
  intro document answer
  have inOrder : InOrder document.text answer.flatten := ⟨by decide, by decide⟩
  rcases annotator_keeps_visible {} inOrder {} with ⟨tokens, sentences, groups, made, keeps⟩
  cases made
  exact ⟨_, _, groups, inOrder, rfl, keeps, rfl, rfl⟩

end Pipeline

end Standoff
