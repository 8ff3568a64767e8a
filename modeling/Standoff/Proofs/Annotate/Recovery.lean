import Standoff.Proofs.Annotate.Forms

/-! Forms between which only white space was dropped are found where they stood. The search
passes over the white space in front of a form and stops at nothing in it, whatever other
occurrences the form has in the text. -/

namespace Standoff

/-- A form with the white space in front of it. The form begins with a character that can be
seen. -/
structure SpacedForm where
  gap : Text
  form : Text
  blank : Text.isBlank gap
  visible : ∃ character, form.head? = some character ∧ ¬ Text.isSpace character

namespace SpacedForm

def written (forms : List SpacedForm) : Text :=
  forms.flatMap fun spaced => spaced.gap ++ spaced.form

def tokensFrom (offset : Nat) : List SpacedForm → Tier
  | [] => []
  | first :: rest =>
      let start := offset + first.gap.length
      Span.tokenAt start first.form :: tokensFrom (start + first.form.length) rest

def sentenceFrom (offset : Nat) (first : SpacedForm) (others : List SpacedForm) : Span where
  start := offset + first.gap.length
  stop := offset + (written (first :: others)).length
  role := .sentence

/-- The sentences of forms that are written from an offset on. Without forms there is no
sentence. -/
def sentencesFrom (offset : Nat) : List (List SpacedForm) → Tier
  | [] => []
  | [] :: rest => sentencesFrom offset rest
  | (first :: others) :: rest =>
      sentenceFrom offset first others ::
        sentencesFrom (offset + (written (first :: others)).length) rest

theorem written_cons (first : SpacedForm) (rest : List SpacedForm) :
    written (first :: rest) = first.gap ++ first.form ++ written rest := rfl

theorem length_written_cons (first : SpacedForm) (rest : List SpacedForm) :
    (written (first :: rest)).length =
      first.gap.length + first.form.length + (written rest).length := by
  rw [written_cons, List.length_append, List.length_append]

theorem written_append (front back : List SpacedForm) :
    written (front ++ back) = written front ++ written back := List.flatMap_append

theorem tokensFrom_append (offset : Nat) (front back : List SpacedForm) :
    tokensFrom offset (front ++ back) =
      tokensFrom offset front ++ tokensFrom (offset + (written front).length) back := by
  induction front generalizing offset with
  | nil => rfl
  | cons first rest induction =>
      rw [List.cons_append, tokensFrom, induction, tokensFrom, length_written_cons,
        List.cons_append]
      simp only [Nat.add_assoc]

/-! ## Searching -/

variable {text : Text} {cursor : Nat}

theorem firstAt_of_standsAt {spaced : SpacedForm}
    (stands : text.StandsAt cursor (spaced.gap ++ spaced.form)) :
    Aligner.FirstAt text cursor spaced.form (cursor + spaced.gap.length) := by
  rcases spaced.visible with ⟨character, first, shown⟩
  refine ⟨?_, Nat.le_add_right _ _, stands.right, ?_⟩
  · intro empty
    rw [empty] at first
    cases first
  · intro other reached otherStands
    by_contra before
    -- An earlier occurrence would begin with a character of the gap.
    have inGap : other - cursor < spaced.gap.length := by omega
    have begins : text[other]? = some character := by
      have := Text.StandsAt.getElem?_eq otherStands (List.head?_eq_getElem? ▸ first)
      simpa using this
    have passes : text[cursor + (other - cursor)]? = some spaced.gap[other - cursor] :=
      Text.StandsAt.getElem?_eq stands.left (List.getElem?_eq_getElem inGap)
    rw [Nat.add_sub_cancel' reached, begins] at passes
    cases passes
    exact shown (List.all_eq_true.mp spaced.blank _ (List.getElem_mem inGap))

def extentOf (token : Span) : Nat × Nat := (token.start, token.stop)

theorem aligned_of_standsAt {forms : List SpacedForm}
    (stands : text.StandsAt cursor (written forms)) :
    Aligner.Aligned text cursor (forms.map (·.form)) ((tokensFrom cursor forms).map extentOf)
      (cursor + (written forms).length) := by
  induction forms generalizing cursor with
  | nil => exact .nil
  | cons first rest induction =>
      rw [written_cons] at stands
      have later := stands.right
      rw [List.length_append, ← Nat.add_assoc] at later
      rw [length_written_cons, ← Nat.add_assoc, ← Nat.add_assoc]
      exact .cons (firstAt_of_standsAt stands.left) (induction later)

end SpacedForm

/-! ## Segmenting -/

namespace Forms

open SpacedForm

variable {text zone : Text} {offset cursor : Nat}

theorem tokenOver_extentOf {form : Text} {start : Nat}
    (stands : text.StandsAt (offset + start) form) :
    tokenOver text offset (extentOf (Span.tokenAt start form)) =
      Span.tokenAt (offset + start) form := by
  have label : (text.drop (offset + start)).take form.length = form :=
    (List.prefix_iff_eq_take.mp stands).symm
  simp only [tokenOver, extentOf, Span.tokenAt, Nat.add_sub_cancel_left, label, Nat.add_assoc]

theorem tokensOver_extents {forms : List SpacedForm}
    (stands : text.StandsAt (offset + cursor) (written forms)) :
    ((tokensFrom cursor forms).map extentOf).map (tokenOver text offset) =
      tokensFrom (offset + cursor) forms := by
  induction forms generalizing cursor with
  | nil => rfl
  | cons first rest induction =>
      rw [written_cons] at stands
      have here := stands.left.right
      have later := stands.right
      rw [List.length_append, ← Nat.add_assoc] at later
      simp only [Nat.add_assoc offset] at here later
      rw [tokensFrom, tokensFrom, List.map_cons, List.map_cons, tokenOver_extentOf here,
        induction later]
      simp only [Nat.add_assoc]

theorem alignSentence_of_standsAt {first : SpacedForm} {others : List SpacedForm}
    (zoneStands : text.StandsAt offset zone)
    (stands : zone.StandsAt cursor (written (first :: others))) :
    alignSentence text offset { text := zone, cursor } first.form (others.map (·.form)) =
      .ok ((tokensFrom (offset + cursor) (first :: others),
        sentenceFrom (offset + cursor) first others),
        { text := zone, cursor := (cursor + (written (first :: others)).length : Nat) }) := by
  have aligned := aligned_of_standsAt stands
  have found := Aligner.alignAll_of_aligned aligned
  rw [List.map_cons, tokensFrom, List.map_cons] at aligned found
  have made := alignSentence_of_aligned zoneStands aligned found
  have tokens := tokensOver_extents (zoneStands.trans stands)
  rw [tokensFrom, List.map_cons] at tokens
  rw [made, sentenceOver, sentenceFrom, ← tokens]
  simp only [extentOf, Span.tokenAt, Nat.add_assoc]

theorem alignSentences_of_standsAt {sentences : List (List SpacedForm)}
    (zoneStands : text.StandsAt offset zone)
    (stands : zone.StandsAt cursor (written sentences.flatten)) :
    ∃ made, alignSentences text offset { text := zone, cursor }
        (sentences.map fun forms => forms.map (·.form)) = .ok made ∧
      made.flatMap (·.1) = tokensFrom (offset + cursor) sentences.flatten ∧
      made.map (·.2) = sentencesFrom (offset + cursor) sentences := by
  -- The cursor is always behind the forms of the sentences that have been found.
  induction sentences generalizing cursor with
  | nil => exact ⟨[], rfl, rfl, rfl⟩
  | cons forms rest induction =>
      cases forms with
      | nil =>
          rw [List.flatten_cons, List.nil_append] at stands ⊢
          exact induction stands
      | cons first others =>
          rw [List.flatten_cons, written_append] at stands
          rcases induction stands.right with ⟨made, aligned, tokens, spans⟩
          refine ⟨(tokensFrom (offset + cursor) (first :: others),
            sentenceFrom (offset + cursor) first others) :: made, ?_, ?_, ?_⟩
          · simp only [List.map_cons, alignSentences,
              alignSentence_of_standsAt zoneStands stands.left, aligned, Except.map]
          · rw [List.flatMap_cons, tokens, List.flatten_cons, tokensFrom_append, Nat.add_assoc]
          · rw [List.map_cons, spans, sentencesFrom, Nat.add_assoc]

namespace Segmenter

/-- Forms that are written with white space between them are found at their places in the
text, and so are the sentences that they are divided into, also in a zone. What stands
behind the last form does not matter. -/
theorem spaced_forms_recovered {μ : Type} (segmenter : Segmenter μ)
    (surroundings : Surroundings μ) (document : Document) (state : State μ) :
    (∀ (forms : List SpacedForm) (rest : Text),
      Aligner.alignAll { text := written forms ++ rest } (forms.map (·.form)) =
        (.ok ((tokensFrom 0 forms).map fun token => (token.start, token.stop)),
          { text := written forms ++ rest, cursor := (written forms).length })) ∧
    ∀ (model : μ) (sentences : List (List SpacedForm)) (rest : Text), 0 ≤ segmenter.zoneStart →
      (segmenter.model surroundings document state).1 = .ok model →
      segmenter.zone document.text = written sentences.flatten ++ rest →
      surroundings.tokenize model (segmenter.zone document.text) =
        some { sentences := sentences.map fun forms => forms.map (·.form) } →
      (segmenter.annotator surroundings document state).result = .ok (some
        [("tokens", tokensFrom segmenter.zoneStart.toNat sentences.flatten),
          ("sentences", sentencesFrom segmenter.zoneStart.toNat sentences)]) := by
  constructor
  · intro forms rest
    have stands := Text.standsAt_append [] (written forms) rest
    have aligned := aligned_of_standsAt stands
    rw [List.length_nil, Nat.zero_add] at aligned
    exact Aligner.alignAll_of_aligned aligned
  · intro model sentences rest positive chosen zone answered
    rcases Int.eq_ofNat_of_zero_le positive with ⟨offset, zoneStart⟩
    have zoneStands := segmenter.standsAt_zone document.text
    rw [Segmenter.lower, zoneStart, Text.offsetOf_natCast] at zoneStands
    have stands : (segmenter.zone document.text).StandsAt 0 (written sentences.flatten) := by
      rw [zone]
      exact Text.standsAt_append [] _ rest
    rcases alignSentences_of_standsAt zoneStands stands with ⟨made, aligned, tokens, spans⟩
    have whole : segmenter.align document.text
        { sentences := sentences.map fun forms => forms.map (·.form) } = .ok made := by
      rw [align, zoneStart]
      exact Result.bind_eq_ok_iff.mpr ⟨made, aligned, rfl⟩
    simp only [annotator_result, chosen, Except.bind, answered, whole, Except.map, tiersOf,
      tokens, spans, zoneStart, Nat.add_zero]
    rfl

/-- A form that holds white space and the forms behind it, a list without forms, and an
occurrence in front of the zone. -/
theorem spaced_forms_recovered_in_zone :
    let segmenter : Segmenter Unit := { given := some (), zoneStart := 1 }
    let surroundings : Surroundings Unit := {
      files := []
      directory := []
      load := fun _ => none
      tokenize := fun _ _ => some { sentences := [["a b".toList], [], [['a'], ['b']]] } }
    let document : Document := { text := "b  a b a\tb ".toList }
    ∃ tokens sentences,
      0 ≤ segmenter.zoneStart ∧
      (segmenter.annotator surroundings document {}).result =
        .ok (some [("tokens", tokens), ("sentences", sentences)]) ∧
      tokens.map extentOf = [(3, 6), (7, 8), (9, 10)] ∧
      sentences.map extentOf = [(3, 6), (7, 10)] := by
  intro segmenter surroundings document
  let first : SpacedForm := ⟨"  ".toList, "a b".toList, by decide, 'a', rfl, by decide⟩
  let second : SpacedForm := ⟨[' '], ['a'], by decide, 'a', rfl, by decide⟩
  let third : SpacedForm := ⟨['\t'], ['b'], by decide, 'b', rfl, by decide⟩
  have recovered := (segmenter.spaced_forms_recovered surroundings document {}).2 ()
    [[first], [], [second, third]] [' '] (by decide) rfl rfl rfl
  exact ⟨_, _, by decide, recovered, rfl, rfl⟩

end Segmenter

end Forms

end Standoff
