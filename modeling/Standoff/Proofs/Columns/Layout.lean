import Standoff.Columns
import Standoff.Proofs.List
import Standoff.Proofs.Result
import Standoff.Proofs.Standing

/-! Where the words of a corpus stand. The text of a corpus is made up from its
forms, so the tokens and the sentence that a run of words contributes are known
from the words and the offset of the run. -/

namespace Standoff.Columns

/-! ## One sentence -/

def lineText (sentence : Sentence) : Text := sentence.flatMap fun word => word.form ++ [' ']

theorem sentenceText_eq (sentence : Sentence) :
    sentenceText sentence = lineText sentence ++ ['\n'] := rfl

theorem lineText_cons (word : Word) (rest : Sentence) :
    lineText (word :: rest) = word.form ++ ([' '] ++ lineText rest) := by
  simp [lineText]

@[simp] theorem length_lineText_cons (word : Word) (rest : Sentence) :
    (lineText (word :: rest)).length = word.form.length + 1 + (lineText rest).length := by
  rw [lineText_cons, List.length_append, List.length_append, List.length_singleton]
  omega

def tokensFrom (offset : Nat) : Sentence → List Span
  | [] => []
  | word :: rest =>
      Span.tokenAt offset word.form :: tokensFrom (offset + word.form.length + 1) rest

/-- A sentence that runs from its first token to its last. -/
def sentenceAt (offset : Nat) (sentence : Sentence) : Span where
  start := offset
  stop := offset + (lineText sentence).length - 1
  role := .sentence

theorem lineText_pos {sentence : Sentence} (nonempty : sentence ≠ []) :
    0 < (lineText sentence).length := by
  cases sentence with
  | nil => exact absurd rfl nonempty
  | cons word rest =>
      rw [length_lineText_cons]
      omega

theorem length_tokensFrom (offset : Nat) (sentence : Sentence) :
    (tokensFrom offset sentence).length = sentence.length := by
  induction sentence generalizing offset with
  | nil => rfl
  | cons word rest induction => exact congrArg (· + 1) (induction _)

theorem token_bounds {offset : Nat} {sentence : Sentence} {token : Span}
    (member : token ∈ tokensFrom offset sentence) :
    offset ≤ token.start ∧ token.start ≤ token.stop ∧
      token.stop + 1 ≤ offset + (lineText sentence).length := by
  induction sentence generalizing offset with
  | nil => cases member
  | cons word rest induction =>
      rw [length_lineText_cons]
      rcases List.mem_cons.mp member with equal | inRest
      · subst equal
        simp only [Span.tokenAt]
        omega
      · have bounds := induction inRest
        omega

/-- Each token starts behind the end of the token in front of it. -/
theorem tokensFrom_separated (offset : Nat) (sentence : Sentence) :
    (tokensFrom offset sentence).Pairwise fun token later => token.stop < later.start := by
  induction sentence generalizing offset with
  | nil => exact .nil
  | cons word rest induction =>
      refine List.pairwise_cons.mpr ⟨?_, induction _⟩
      intro later member
      have bounds := token_bounds member
      simp only [Span.tokenAt]
      omega

theorem head?_tokensFrom {offset : Nat} {sentence : Sentence} (nonempty : sentence ≠ []) :
    ∃ token, (tokensFrom offset sentence).head? = some token ∧ token.start = offset := by
  cases sentence with
  | nil => exact absurd rfl nonempty
  | cons word rest => exact ⟨_, rfl, rfl⟩

theorem getLast?_tokensFrom {offset : Nat} {sentence : Sentence} {word : Word}
    (last : sentence.getLast? = some word) :
    ∃ token, (tokensFrom offset sentence).getLast? = some token ∧
      token.stop + 1 = offset + (lineText sentence).length := by
  induction sentence generalizing offset with
  | nil => cases last
  | cons first rest induction =>
      cases rest with
      | nil =>
          cases last
          refine ⟨_, rfl, ?_⟩
          rw [length_lineText_cons]
          rfl
      | cons second rest =>
          rw [List.getLast?_cons_cons] at last
          rcases @induction (offset + first.form.length + 1) last with
            ⟨token, found, stop⟩
          refine ⟨token, ?_, ?_⟩
          · rw [tokensFrom, tokensFrom, List.getLast?_cons_cons]
            exact found
          · rw [length_lineText_cons, stop]
            omega

/-! ## A sentence in the text -/

theorem standsAt_rest {text : Text} {offset : Nat} {word : Word} {rest : Sentence}
    (stands : text.StandsAt offset (lineText (word :: rest))) :
    text.StandsAt (offset + word.form.length + 1) (lineText rest) := by
  rw [lineText_cons] at stands
  exact stands.right.right

theorem token?_of_line {text : Text} {offset : Nat} {word : Word} {rest : Sentence}
    (stands : text.StandsAt offset (lineText (word :: rest))) :
    Span.token? text offset (offset + word.form.length : Nat) =
      .ok (Span.tokenAt offset word.form) := by
  rw [lineText_cons] at stands
  have inside := stands.length_le (by simp)
  rw [List.length_append] at inside
  exact Span.token?_of_standsAt stands.left (by omega)

theorem layTokens_of_line {text : Text} {offset : Nat} {sentence : Sentence}
    (stands : text.StandsAt offset (lineText sentence)) :
    layTokens text offset sentence = .ok (tokensFrom offset sentence) := by
  induction sentence generalizing offset with
  | nil => rfl
  | cons word rest induction =>
      simp only [layTokens, token?_of_line stands, induction (standsAt_rest stands)]
      rfl

theorem covered_tokensFrom {text : Text} {offset : Nat} {sentence : Sentence}
    (stands : text.StandsAt offset (lineText sentence)) :
    (tokensFrom offset sentence).map (Span.covered text) = sentence.map (·.form) := by
  induction sentence generalizing offset with
  | nil => rfl
  | cons word rest induction =>
      have here := stands
      rw [lineText_cons] at here
      rw [tokensFrom, List.map_cons, List.map_cons, induction (standsAt_rest stands),
        Span.covered_tokenAt here.left]

theorem sentenceOf?_of_line {text : Text} {offset : Nat} {sentence : Sentence}
    (stands : text.StandsAt offset (lineText sentence)) (nonempty : sentence ≠ []) :
    Span.sentenceOf? text (tokensFrom offset sentence) =
      some (.ok (sentenceAt offset sentence)) := by
  have positive := lineText_pos nonempty
  have inside := stands.length_le (List.ne_nil_of_length_pos positive)
  rcases @head?_tokensFrom offset sentence nonempty with ⟨first, foundFirst, start⟩
  rcases @getLast?_tokensFrom offset sentence _ (List.getLast?_eq_some_getLast nonempty) with
    ⟨last, foundLast, stop⟩
  have stopEqual : last.stop = offset + (lineText sentence).length - 1 := by omega
  have made : Span.make? text offset (offset + (lineText sentence).length - 1 : Nat) none
      .sentence = .ok (sentenceAt offset sentence) :=
    Span.make?_natCast (by omega) (by omega) none .sentence
  simp only [Span.sentenceOf?, foundFirst, foundLast, Span.sentence?, start, stopEqual, made]

/-! ## The sentences of a corpus -/

/-- A sentence with its index and the offset of its line. -/
structure Place where
  index : Nat
  offset : Nat
  sentence : Sentence

def placesFrom (index offset : Nat) : List Sentence → List Place
  | [] => []
  | sentence :: rest =>
      ⟨index, offset, sentence⟩ ::
        placesFrom (index + 1) (offset + (sentenceText sentence).length) rest

theorem placesFrom_getElem? (index offset : Nat) (sentences : List Sentence) (number : Nat) :
    (placesFrom index offset sentences)[number]? = sentences[number]?.map fun sentence =>
      ⟨index + number, offset + (corpusText (sentences.take number)).length, sentence⟩ := by
  induction sentences generalizing index offset number with
  | nil => rfl
  | cons sentence rest induction =>
      cases number with
      | zero => rfl
      | succ number =>
          simp only [placesFrom, List.getElem?_cons_succ, induction, List.take_succ_cons,
            corpusText, List.flatMap_cons, List.length_append, Nat.add_assoc,
            Nat.add_comm 1 number]

theorem map_placesFrom (index offset : Nat) (sentences : List Sentence) :
    (placesFrom index offset sentences).map (fun place => (place.sentence, place.index)) =
      sentences.zipIdx index := by
  induction sentences generalizing index offset with
  | nil => rfl
  | cons sentence rest induction =>
      rw [placesFrom, List.map_cons, List.zipIdx_cons, induction]

theorem map_sentence_placesFrom (index offset : Nat) (sentences : List Sentence) :
    (placesFrom index offset sentences).map (·.sentence) = sentences := by
  have numbered := congrArg (List.map Prod.fst) (map_placesFrom index offset sentences)
  rw [List.map_map, List.zipIdx_map_fst] at numbered
  exact numbered

theorem place_of_sentence {sentences : List Sentence} {index : Nat} {sentence : Sentence}
    (found : sentences[index]? = some sentence) :
    (placesFrom 0 0 sentences)[index]? =
      some ⟨index, (corpusText (sentences.take index)).length, sentence⟩ := by
  rw [placesFrom_getElem?, found, Option.map_some, Nat.zero_add, Nat.zero_add]

theorem length_placesFrom (index offset : Nat) (sentences : List Sentence) :
    (placesFrom index offset sentences).length = sentences.length := by
  induction sentences generalizing index offset with
  | nil => rfl
  | cons sentence rest induction => exact congrArg (· + 1) (induction _ _)

theorem sentence_mem_of_place {index offset : Nat} {sentences : List Sentence} {place : Place}
    (member : place ∈ placesFrom index offset sentences) : place.sentence ∈ sentences := by
  rcases List.mem_iff_getElem?.mp member with ⟨number, found⟩
  rw [placesFrom_getElem?] at found
  rcases Option.map_eq_some_iff.mp found with ⟨sentence, foundSentence, rfl⟩
  exact List.mem_of_getElem? foundSentence

/-- Each line begins behind the end of the line in front of it. -/
theorem placesFrom_separated (index offset : Nat) (sentences : List Sentence) :
    (∀ place ∈ placesFrom index offset sentences, offset ≤ place.offset) ∧
    (placesFrom index offset sentences).Pairwise fun place later =>
      place.offset + (lineText place.sentence).length < later.offset := by
  induction sentences generalizing index offset with
  | nil => exact ⟨nofun, .nil⟩
  | cons sentence rest induction =>
      have later := induction (index + 1) (offset + (sentenceText sentence).length)
      have length : (sentenceText sentence).length = (lineText sentence).length + 1 := by
        rw [sentenceText_eq, List.length_append, List.length_singleton]
      refine ⟨?_, List.pairwise_cons.mpr ⟨?_, later.2⟩⟩
      · intro place member
        rcases List.mem_cons.mp member with equal | inRest
        · exact equal ▸ Nat.le_refl offset
        · have := later.1 place inRest
          omega
      · intro place member
        have := later.1 place member
        simp only
        omega

theorem standsAt_of_place {text : Text} {index offset : Nat} {sentences : List Sentence}
    (stands : text.StandsAt offset (corpusText sentences)) {place : Place}
    (member : place ∈ placesFrom index offset sentences) :
    text.StandsAt place.offset (lineText place.sentence) := by
  induction sentences generalizing index offset with
  | nil => cases member
  | cons sentence rest induction =>
      rw [corpusText, List.flatMap_cons] at stands
      rcases List.mem_cons.mp member with equal | inRest
      · subst equal
        rw [sentenceText_eq] at stands
        exact stands.left.left
      · exact induction stands.right inRest

theorem standsAt_corpus (sentences : List Sentence) :
    (corpusText sentences).StandsAt 0 (corpusText sentences) := by
  have stands := Text.standsAt_append [] (corpusText sentences) []
  rw [List.nil_append, List.append_nil] at stands
  exact stands

theorem annotateFrom_eq_ok_iff {options : Options} {text source : Text} {index offset : Nat}
    {sentences : List Sentence} {annotated : List Annotated} :
    annotateFrom options text source index offset sentences = .ok annotated ↔
      List.Forall₂ (fun place one =>
        annotateSentence options text source place.index place.offset place.sentence = .ok one)
        (placesFrom index offset sentences) annotated := by
  induction sentences generalizing index offset annotated with
  | nil =>
      rw [placesFrom, List.forall₂_nil_left_iff]
      exact ⟨fun equal => (Except.ok.inj equal).symm, fun nil => congrArg _ nil.symm⟩
  | cons sentence rest induction =>
      rw [placesFrom, List.forall₂_cons_left_iff, annotateFrom, Result.bind_eq_ok_iff]
      constructor
      · intro done
        rcases done with ⟨one, here, done⟩
        rcases Result.bind_eq_ok_iff.mp done with ⟨others, later, equal⟩
        cases equal
        exact ⟨one, others, here, induction.mp later, rfl⟩
      · intro done
        rcases done with ⟨one, others, here, later, equal⟩
        subst equal
        exact ⟨one, here, Result.bind_eq_ok_iff.mpr ⟨others, induction.mpr later, rfl⟩⟩

end Standoff.Columns
