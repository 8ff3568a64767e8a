import Standoff.Annotate.Pipeline
import Standoff.Proofs.Result

/-! What a pipeline makes of its answer. Each token that is visible gets a span where the
pipeline has found it, and each part of the answer with such tokens a sentence around
them, or nothing is made at all. -/

namespace Standoff

/-! ## Sentences around tokens -/

theorem Span.sentenceOf?_ne_none {text : Text} {spans : List Span} (nonempty : spans ≠ []) :
    Span.sentenceOf? text spans ≠ none := by
  rcases List.getLast?_isSome.mpr nonempty |> Option.isSome_iff_exists.mp with ⟨last, isLast⟩
  cases spans with
  | nil => exact absurd rfl nonempty
  | cons first others => simp [Span.sentenceOf?, isLast]

theorem Span.bounds_of_sentenceOf? {text : Text} {spans : List Span} {sentence : Span}
    (made : Span.sentenceOf? text spans = some (.ok sentence)) :
    spans.head?.map (·.start) = some sentence.start ∧
      spans.getLast?.map (·.stop) = some sentence.stop ∧ sentence.role = .sentence := by
  unfold Span.sentenceOf? at made
  split at made
  · rename_i first last isFirst isLast
    rw [Option.some.injEq] at made
    rcases Span.within_of_make? made with ⟨_, start, stop⟩
    rw [isFirst, isLast, Option.map_some, Option.map_some, Option.some.injEq, Option.some.injEq]
    refine ⟨(Int.ofNat.inj start).symm, (Int.ofNat.inj stop).symm, ?_⟩
    unfold Span.sentence? Span.make? at made
    split at made <;> cases made
    rfl
  · cases made

namespace Pipeline

/-! ## Tiers of an answer -/

/-- The span of a token is where the pipeline has found it. -/
structure Stands (text : Text) (token : Token) (span : Span) : Prop where
  start : (span.start : Int) = token.offset
  stop : (span.stop : Int) = token.offset + token.form.length
  within : span.Within text
  label : span.label = some (span.covered text)
  role : span.role = .token

/-- Spans for all tokens of one part of an answer, and the sentence around them. -/
structure Segments (text : Text) (part : List Token) (found : List Span × Span) : Prop where
  tokens : List.Forall₂ (Stands text) part found.1
  first : found.1.head?.map (·.start) = some found.2.start
  last : found.1.getLast?.map (·.stop) = some found.2.stop
  role : found.2.role = .sentence

def visibleParts (answer : Answer) : List (List Token) :=
  (answer.map (List.filter Token.visible)).filter (· ≠ [])

theorem visibleParts_of_hidden {part : List Token} (hidden : part.filter Token.visible = [])
    (rest : Answer) : visibleParts (part :: rest) = visibleParts rest := by
  simp [visibleParts, hidden]

theorem visibleParts_of_visible {part : List Token} (visible : part.filter Token.visible ≠ [])
    (rest : Answer) :
    visibleParts (part :: rest) = part.filter Token.visible :: visibleParts rest := by
  simp [visibleParts, visible]

/-- The tiers of a pipeline that has gone on to the end of its answer. -/
def Complete (text : Text) (answer : Answer) (trouble : Option Text) (made : Tiers) : Prop :=
  trouble = none ∧ ∃ found, List.Forall₂ (Segments text) (visibleParts answer) found ∧
    made = [("tokens", found.flatMap (·.1)), ("sentences", found.map (·.2))]

section

variable {text : Text} {answer : Answer}

theorem stands_of_token? {token : Token} {span : Span}
    (made : Span.token? text token.offset (token.offset + token.form.length) = .ok span) :
    Stands text token span := by
  rcases Result.map_eq_ok_iff.mp made with ⟨plain, plainMade, rfl⟩
  rcases Span.within_of_make? plainMade with ⟨within, start, stop⟩
  unfold Span.make? at plainMade
  split at plainMade
  · cases plainMade
    exact ⟨start, stop, within, rfl, rfl⟩
  · cases plainMade

theorem segmentSentence_cases {part : List Token} {result : Option (List Span × Span)}
    (segmented : segmentSentence text part = .ok result) :
    (part.filter Token.visible = [] ∧ result = none) ∨
    (part.filter Token.visible ≠ [] ∧
      ∃ found, result = some found ∧ Segments text (part.filter Token.visible) found) := by
  rcases Result.bind_eq_ok_iff.mp segmented with ⟨spans, found, made⟩
  have tokens := (Result.mapM_eq_ok_iff.mp found).imp fun _ _ => stands_of_token?
  cases sentence : Span.sentenceOf? text spans with
  | none =>
      rw [sentence] at made
      cases made
      have nothing : spans = [] := by
        by_contra nonempty
        exact Span.sentenceOf?_ne_none nonempty sentence
      rw [nothing, List.forall₂_nil_right_iff] at tokens
      exact Or.inl ⟨tokens, rfl⟩
  | some outcome =>
      rw [sentence] at made
      rcases Result.bind_eq_ok_iff.mp made with ⟨whole, rfl, returned⟩
      cases returned
      rcases Span.bounds_of_sentenceOf? sentence with ⟨first, last, role⟩
      refine Or.inr ⟨?_, _, rfl, tokens, first, last, role⟩
      rintro nothing
      rw [nothing, List.forall₂_nil_left_iff] at tokens
      rw [tokens] at first
      cases first

theorem complete_of_segment {tokens sentences : Tier}
    (segmented : segment text answer = .ok (tokens, sentences)) :
    Complete text answer none [("tokens", tokens), ("sentences", sentences)] := by
  rcases Result.bind_eq_ok_iff.mp segmented with ⟨results, each, returned⟩
  cases returned
  refine ⟨rfl, results.filterMap id, ?_, rfl⟩
  rw [Result.mapM_eq_ok_iff] at each
  clear segmented
  induction each with
  | nil => exact .nil
  | @cons part result rest others here _ induction =>
      rcases segmentSentence_cases here with ⟨hidden, rfl⟩ | ⟨visible, found, rfl, segments⟩
      · rw [visibleParts_of_hidden hidden]
        exact induction
      · rw [visibleParts_of_visible visible]
        exact .cons segments induction

end

/-! ## The annotator -/

/-- A pipeline answers with complete tiers or fails, and leaves the document to others. -/
theorem annotator_cases (options : Options) (answer : Answer) (trouble : Option Text)
    (document : Document) (shelf : Shelf) :
    ∃ after, (∃ failure, annotator options answer trouble document shelf =
        ⟨.error failure, document, after⟩) ∨
      ∃ tokens sentences, annotator options answer trouble document shelf =
          ⟨.ok (some [("tokens", tokens), ("sentences", sentences)]), document, after⟩ ∧
        Complete document.text answer trouble
          [("tokens", tokens), ("sentences", sentences)] := by
  refine ⟨shelf.call (options.languageFor document), ?_⟩
  unfold annotator
  rcases segmented : segment document.text answer with error | ⟨tokens, sentences⟩
  · exact Or.inl ⟨_, rfl⟩
  · cases trouble with
    | some report => exact Or.inl ⟨_, rfl⟩
    | none => exact Or.inr ⟨tokens, sentences, rfl, complete_of_segment segmented⟩

end Pipeline

end Standoff
