import Standoff.Proofs.Columns.Grammar

/-! What the lines of a corpus contribute to its sentences. The source of a line and its
number only matter to what is said of a line that is out of format, and the sentences on
both sides of a blank line do not depend on one another. -/

namespace Standoff.Columns

/-! ## One line -/

/-- What a line contributes, if it is in format. -/
def lineOf? (options : Options) (written : Text) : Option Line :=
  let line := Text.chomp written
  if Text.isBlank line then some .blank
  else if line.head? = some '#' ∧ options.comments = .skip then some .skipped
  else if line.head? = some '#' ∧ options.comments = .error then none
  else (Word.ofFields? options (fieldsOf options.separator line)).map .word

theorem toOption_readLine (options : Options) (source : Text) (number : Nat) (written : Text) :
    (readLine options source number written).toOption = lineOf? options written := by
  simp only [readLine, lineOf?]
  split
  · rfl
  · split
    · rfl
    · split
      · rfl
      · cases Word.ofFields? options (fieldsOf options.separator (Text.chomp written)) <;> rfl

theorem lineOf?_of_blank {options : Options} {written : Text} (blank : Text.isBlank written) :
    lineOf? options written = some .blank := by
  simp only [lineOf?, Text.isBlank_chomp, blank, if_true]

/-! ## All lines -/

/-- The sentences of lines, if all of them are in format. -/
def sentences? (options : Options) (lines : List Text) : Option (List Sentence) :=
  (lines.mapM (lineOf? options)).map sentencesOf

theorem toOption_readLinesFrom (options : Options) (source : Text) (number : Nat)
    (lines : List Text) :
    (readLinesFrom options source number lines).toOption = lines.mapM (lineOf? options) := by
  induction lines generalizing number with
  | nil => rfl
  | cons written rest induction =>
      rw [List.mapM_cons, ← toOption_readLine options source number, ← induction (number + 1),
        readLinesFrom]
      cases readLine options source number written with
      | error error => rfl
      | ok line => cases readLinesFrom options source (number + 1) rest <;> rfl

theorem toOption_readSentences (options : Options) (source : Text) (lines : List Text) :
    (readSentences options source lines).toOption = sentences? options lines := by
  rw [readSentences, sentences?, ← toOption_readLinesFrom options source 1]
  cases readLinesFrom options source 1 lines <;> rfl

/-! ## Lines between lines -/

theorem splitSentences_append_blank (before behind : List Line) :
    splitSentences (before ++ .blank :: behind) =
      ((splitSentences before).1, (splitSentences before).2 ++ sentencesOf behind) := by
  induction before with
  | nil => rfl
  | cons line rest induction =>
      cases line with
      | word word => simp only [List.cons_append, splitSentences, induction]
      | skipped => simp only [List.cons_append, splitSentences, induction]
      | blank =>
          simp only [List.cons_append, splitSentences, induction]
          split <;> rfl

/-- A blank line ends the sentence in front of it and begins the one behind it. -/
theorem sentencesOf_append_blank (before behind : List Line) :
    sentencesOf (before ++ .blank :: behind) = sentencesOf before ++ sentencesOf behind := by
  have spelled : ∀ lines, sentencesOf lines =
      if (splitSentences lines).1 = [] then (splitSentences lines).2
      else (splitSentences lines).1 :: (splitSentences lines).2 := fun _ => rfl
  rw [spelled, spelled before, splitSentences_append_blank]
  split <;> rfl

theorem splitSentences_append_skipped (before behind : List Line) :
    splitSentences (before ++ .skipped :: behind) = splitSentences (before ++ behind) := by
  induction before with
  | nil => rfl
  | cons line rest induction =>
      cases line <;> simp only [List.cons_append, splitSentences, induction]

theorem sentencesOf_append_skipped (before behind : List Line) :
    sentencesOf (before ++ .skipped :: behind) = sentencesOf (before ++ behind) := by
  rw [sentencesOf, splitSentences_append_skipped, sentencesOf]

section

variable {options : Options} (front back : List Text) {line : Text}

theorem sentences?_nil (options : Options) : sentences? options [] = some [] := rfl

theorem sentences?_append_blank (blank : Text.isBlank line) :
    sentences? options (front ++ line :: back) =
      (sentences? options front).bind fun before =>
        (sentences? options back).map fun behind => before ++ behind := by
  simp only [sentences?, List.mapM_append, List.mapM_cons, lineOf?_of_blank blank]
  cases front.mapM (lineOf? options) with
  | none => rfl
  | some before =>
      cases back.mapM (lineOf? options) with
      | none => rfl
      | some behind => exact congrArg some (sentencesOf_append_blank before behind)

theorem sentences?_append_skipped (skipped : lineOf? options line = some .skipped) :
    sentences? options (front ++ line :: back) = sentences? options (front ++ back) := by
  simp only [sentences?, List.mapM_append, List.mapM_cons, skipped]
  cases front.mapM (lineOf? options) with
  | none => rfl
  | some before =>
      cases back.mapM (lineOf? options) with
      | none => rfl
      | some behind => exact congrArg some (sentencesOf_append_skipped before behind)

theorem sentences?_append_congr {other : Text}
    (same : lineOf? options line = lineOf? options other) :
    sentences? options (front ++ line :: back) = sentences? options (front ++ other :: back) := by
  simp only [sentences?, List.mapM_append, List.mapM_cons, same]

end

end Standoff.Columns
