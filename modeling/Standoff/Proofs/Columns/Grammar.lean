import Mathlib.Data.List.DropRight
import Standoff.Columns
import Standoff.Proofs.List
import Standoff.Proofs.Result
import Standoff.Proofs.Text

/-! What the lines of a corpus say. A line is blank, a comment that is skipped, a word, or
refused. The words between blank lines are sentences, and words that can be written are
read again as they were. -/

namespace Standoff.Columns

/-! ## Fields -/

/-- The fields of a line: the parts between separators, without empty ones at the end. -/
def splitFields (separator : Separator) (line : Text) : List Text :=
  (line.splitOn separator.character).rdropWhile (· = [])

example : splitFields .tab "Wolff\t\tB-PER\t\t".toList =
    ["Wolff".toList, [], "B-PER".toList] := by decide

theorem fieldsOf_eq (separator : Separator) (line : Text) :
    fieldsOf separator line = splitFields separator line := by
  rw [fieldsOf, Text.fields_eq_splitOn]
  rfl

theorem splitFields_intercalate {separator : Separator} {fields : List Text}
    (nonempty : fields ≠ []) (absent : ∀ field ∈ fields, separator.character ∉ field)
    (last : fields.getLast? ≠ some []) :
    splitFields separator ([separator.character].intercalate fields) = fields := by
  rw [splitFields, List.splitOn_intercalate _ absent nonempty, List.rdropWhile_eq_self_iff]
  intro _
  rw [decide_eq_true_eq]
  intro empty
  exact last (by rw [List.getLast?_eq_some_getLast nonempty, empty])

theorem Word.ofFields?_eq_some_iff {options : Options} {fields : List Text} {word : Word} :
    Word.ofFields? options fields = some word ↔
      fields.length = options.fieldCount ∧ word.fields = fields := by
  rcases word with ⟨form, tag, embedded⟩
  unfold Word.ofFields?
  split
  · rename_i one
    rw [Options.fieldCount, one]
    cases embedded <;> simp [Word.fields, eq_comm]
  · rename_i two
    rw [Options.fieldCount, two]
    cases embedded <;> simp [Word.fields, eq_comm]
  · rename_i neither both
    refine ⟨nofun, ?_⟩
    rintro ⟨count, rfl⟩
    rw [Options.fieldCount] at count
    cases options_ : options.embedded <;> cases embedded <;>
      simp_all [Word.fields]

theorem Options.fieldCount_eq (options : Options) :
    options.fieldCount = 2 ∨ options.fieldCount = 3 := by
  rw [Options.fieldCount]
  cases options.embedded with
  | false => exact .inl rfl
  | true => exact .inr rfl

theorem Word.exists_fields_eq {options : Options} {fields : List Text}
    (count : fields.length = options.fieldCount) : ∃ word : Word, word.fields = fields := by
  rcases options.fieldCount_eq with two | three
  · rcases List.length_eq_two.mp (count.trans two) with ⟨form, tag, rfl⟩
    exact ⟨{ form, tag }, rfl⟩
  · rcases List.length_eq_three.mp (count.trans three) with ⟨form, tag, embedded, rfl⟩
    exact ⟨{ form, tag, embedded := some embedded }, rfl⟩

/-! ## Kinds of lines -/

def isBlankLine (written : Text) : Bool := Text.isBlank (Text.chomp written)

def isComment (options : Options) (mode : CommentMode) (written : Text) : Bool :=
  (Text.chomp written).head? = some '#' ∧ options.comments = mode

/-- A line is read as a word, if it is in format. -/
def isRead (options : Options) (written : Text) : Bool :=
  !isBlankLine written && !isComment options .skip written

/-- A line that can be seen is out of format when it is a comment that must not stand there,
or when it is to be read and has not as many fields as required. -/
def Refused (options : Options) (written : Text) : Prop :=
  ¬ isBlankLine written ∧ (isComment options .error written ∨
    ¬ isComment options .skip written ∧
      (splitFields options.separator (Text.chomp written)).length ≠ options.fieldCount)

def refusal (options : Options) (source : Text) (number : Nat) (written : Text) : FormatError :=
  if isComment options .error written then .comment number source (Text.chomp written)
  else .fields number source options.fieldCount options.separator (Text.chomp written)

/-- What a line contributes that is not refused. -/
inductive Contribution (options : Options) (written : Text) : Line → Prop
  | blank (blank : isBlankLine written) : Contribution options written .blank
  | skipped (visible : ¬ isBlankLine written) (skipped : isComment options .skip written) :
      Contribution options written .skipped
  | word (word : Word) (read : isRead options written)
      (fields : word.fields = splitFields options.separator (Text.chomp written)) :
      Contribution options written (.word word)

section

variable {options : Options} {source : Text} {number : Nat} {written : Text}

theorem readLine_of_refused (refused : Refused options written) :
    readLine options source number written = .error (refusal options source number written) := by
  simp only [Refused, isBlankLine, isComment, decide_eq_true_eq] at refused
  simp only [readLine, refusal, isComment, decide_eq_true_eq, if_neg refused.1]
  rcases refused.2 with comment | ⟨kept, count⟩
  · have other : ¬ ((Text.chomp written).head? = some '#' ∧ options.comments = .skip) := by
      rw [comment.2]
      exact fun skipped => CommentMode.noConfusion skipped.2
    rw [if_neg other, if_pos comment, if_pos comment]
  · rw [if_neg kept]
    split
    · rfl
    · have none : Word.ofFields? options (fieldsOf options.separator (Text.chomp written)) =
          none := by
        rw [Option.eq_none_iff_forall_ne_some, fieldsOf_eq]
        exact fun word read => count (Word.ofFields?_eq_some_iff.mp read).1
      rw [none]

theorem readLine_of_accepted (accepted : ¬ Refused options written) :
    ∃ line, readLine options source number written = .ok line ∧
      Contribution options written line := by
  simp only [readLine]
  split
  · rename_i blank
    exact ⟨_, rfl, .blank blank⟩
  · rename_i visible
    split
    · rename_i skipped
      exact ⟨_, rfl, .skipped visible (decide_eq_true skipped)⟩
    · rename_i kept
      have kept : ¬ isComment options .skip written := by simpa [isComment] using kept
      split
      · rename_i comment
        exact absurd ⟨visible, .inl (decide_eq_true comment)⟩ accepted
      · split
        · rename_i word read
          rw [fieldsOf_eq] at read
          refine ⟨_, rfl, .word word ?_ (Word.ofFields?_eq_some_iff.mp read).2⟩
          simp_all [isRead, isBlankLine]
        · rename_i unread
          have count : (splitFields options.separator (Text.chomp written)).length =
              options.fieldCount := by
            by_contra different
            exact accepted ⟨visible, .inr ⟨kept, different⟩⟩
          rcases Word.exists_fields_eq count with ⟨word, fields⟩
          rw [fieldsOf_eq, Word.ofFields?_eq_some_iff.mpr ⟨count, fields⟩] at unread
          cases unread

end

theorem readLinesFrom_of_refused {options : Options} {source : Text} {number : Nat}
    {before after : List Text} {written : Text}
    (accepted : ∀ earlier ∈ before, ¬ Refused options earlier)
    (refused : Refused options written) :
    readLinesFrom options source number (before ++ written :: after) =
      .error (refusal options source (number + before.length) written) := by
  induction before generalizing number with
  | nil => simp only [List.nil_append, readLinesFrom, readLine_of_refused refused,
      List.length_nil, Nat.add_zero]
  | cons first before induction =>
      rw [List.forall_mem_cons] at accepted
      rcases @readLine_of_accepted options source number first accepted.1 with ⟨line, read, _⟩
      simp only [List.cons_append, readLinesFrom, read, induction accepted.2, List.length_cons]
      rw [Nat.add_right_comm, Nat.add_assoc]
      rfl

theorem readLinesFrom_of_accepted {options : Options} {source : Text} {number : Nat}
    {lines : List Text} (accepted : ∀ written ∈ lines, ¬ Refused options written) :
    ∃ read, readLinesFrom options source number lines = .ok read ∧
      List.Forall₂ (Contribution options) lines read := by
  induction lines generalizing number with
  | nil => exact ⟨[], rfl, .nil⟩
  | cons written rest induction =>
      rw [List.forall_mem_cons] at accepted
      rcases @readLine_of_accepted options source number written accepted.1 with
        ⟨line, here, contribution⟩
      rcases @induction (number + 1) accepted.2 with ⟨read, later, contributions⟩
      refine ⟨line :: read, ?_, .cons contribution contributions⟩
      simp only [readLinesFrom, here, later]
      rfl

/-! ## Runs of words -/

/-- The longest runs of lines that are read as words without a blank line between them. -/
def runs (options : Options) (lines : List Text) : List (List Text) :=
  ((lines.splitOnP isBlankLine).map fun part => part.filter (isRead options)).filter (· ≠ [])

example : runs { comments := .skip } ["a O\n".toList, "# \n".toList, "b O\n".toList,
    " \n".toList, "\n".toList, "c O".toList] =
      [["a O\n".toList, "b O\n".toList], ["c O".toList]] := by decide

theorem nil_not_mem_runs (options : Options) (lines : List Text) : [] ∉ runs options lines := by
  intro member
  simpa using List.of_mem_filter member

theorem flatten_runs (options : Options) (lines : List Text) :
    (runs options lines).flatten = lines.filter (isRead options) := by
  rw [runs, List.flatten_filter_ne_nil]
  induction lines with
  | nil => rfl
  | cons written rest induction =>
      rw [List.splitOnP_cons_eq_if_modifyHead]
      split
      · rename_i blank
        rw [List.map_cons, List.flatten_cons, induction, List.filter_cons_of_neg]
        · rfl
        · simp [isRead, blank]
      · cases split : rest.splitOnP isBlankLine with
        | nil => exact absurd split (List.splitOnP_ne_nil _ _)
        | cons first others =>
            rw [split] at induction
            simp only [List.modifyHead_cons, List.map_cons, List.flatten_cons,
              List.filter_cons] at induction ⊢
            split <;> simp [induction]

def Sentence.fields (sentence : Sentence) : List (List Text) := sentence.map Word.fields

section

variable {options : Options}

/-- A run of lines that contributes the words of a sentence. -/
def Spells (options : Options) (run : List Text) (sentence : Sentence) : Prop :=
  Sentence.fields sentence =
    run.map fun written => splitFields options.separator (Text.chomp written)

theorem spells_filter {run : List Text} {words : Sentence} {parts : List (List Text)}
    {later : List Sentence} (here : Spells options run words)
    (there : List.Forall₂ (Spells options) (parts.filter (· ≠ [])) later) :
    List.Forall₂ (Spells options) ((run :: parts).filter (· ≠ []))
      (if words = [] then later else words :: later) := by
  have same : run = [] ↔ words = [] := by
    have lengths := congrArg List.length here
    rw [Sentence.fields, List.length_map, List.length_map] at lengths
    rw [← List.length_eq_zero_iff, ← List.length_eq_zero_iff, lengths]
  by_cases empty : words = []
  · simpa [empty, same.mpr empty] using there
  · rw [if_neg empty, List.filter_cons, if_pos (decide_eq_true (mt same.mp empty))]
    exact .cons here there

theorem spells_splitSentences {lines : List Text} {read : List Line}
    (all : List.Forall₂ (Contribution options) lines read) :
    ∃ first others, lines.splitOnP isBlankLine = first :: others ∧
      Spells options (first.filter (isRead options)) (splitSentences read).1 ∧
      List.Forall₂ (Spells options)
        ((others.map fun part => part.filter (isRead options)).filter (· ≠ []))
        (splitSentences read).2 := by
  induction all with
  | nil => exact ⟨[], [], rfl, rfl, .nil⟩
  | @cons written line rest read contribution _ induction =>
      rcases induction with ⟨first, others, split, here, there⟩
      rw [List.splitOnP_cons_eq_if_modifyHead, split]
      cases contribution with
      | blank blank =>
          exact ⟨[], first :: others, if_pos blank, rfl, spells_filter here there⟩
      | skipped visible skipped =>
          refine ⟨written :: first, others, if_neg visible, ?_, there⟩
          rw [List.filter_cons_of_neg (by simp [isRead, skipped])]
          exact here
      | word word isRead fields =>
          have visible : ¬ isBlankLine written := by
            simp_all [Columns.isRead]
          refine ⟨written :: first, others, if_neg visible, ?_, there⟩
          rw [List.filter_cons_of_pos isRead]
          exact List.cons_eq_cons.mpr ⟨fields, here⟩

theorem readSentences_of_accepted {source : Text} {lines : List Text}
    (accepted : ∀ written ∈ lines, ¬ Refused options written) :
    ∃ sentences, readSentences options source lines = .ok sentences ∧
      List.Forall₂ (Spells options) (runs options lines) sentences := by
  rcases @readLinesFrom_of_accepted options source 1 lines accepted with
    ⟨read, linesRead, contributions⟩
  rcases spells_splitSentences contributions with ⟨first, others, split, here, there⟩
  refine ⟨sentencesOf read, ?_, ?_⟩
  · rw [readSentences, linesRead]
    rfl
  · rw [runs, split]
    exact spells_filter here there

end

theorem runs_append {options : Options} {run : List Text} {blank : Text}
    (read : ∀ written ∈ run, isRead options written) (nonempty : run ≠ [])
    (ends : isBlankLine blank) (rest : List Text) :
    runs options (run ++ blank :: rest) = run :: runs options rest := by
  have visible : ∀ written ∈ run, isBlankLine written = false := by
    intro written member
    simpa using (Bool.and_eq_true_iff.mp (read written member)).1
  rw [runs, List.splitOnP_append_cons_of_forall_mem visible blank ends, List.map_cons,
    List.filter_eq_self.mpr read, List.filter_cons, if_pos (decide_eq_true nonempty), runs]

/-! ## Writing words -/

def row (separator : Separator) (fields : List Text) : Text :=
  [separator.character].intercalate fields

def rows (separator : Separator) (sentences : List (List (List Text))) : List Text :=
  sentences.flatMap fun sentence => sentence.map (row separator) ++ [[]]

/-- Fields that a line can hold, and that are the fields of a word then. -/
structure Writable (options : Options) (fields : List Text) : Prop where
  count : fields.length = options.fieldCount
  plain : ∀ field ∈ fields, options.separator.character ∉ field ∧ '\n' ∉ field
  last : ∃ last, fields.getLast? = some last ∧ last ≠ [] ∧ last.getLast? ≠ some '\r'
  visible : ¬ Text.isBlank (row options.separator fields)
  uncommented : options.comments ≠ .token → (row options.separator fields).head? ≠ some '#'

theorem getLast?_row {separator : Separator} {fields : List Text} {last : Text}
    (ends : fields.getLast? = some last) (nonempty : last ≠ []) :
    (row separator fields).getLast? = last.getLast? := by
  rw [row]
  induction fields with
  | nil => cases ends
  | cons first rest induction =>
      cases rest with
      | nil =>
          have same : first = last := Option.some.inj ends
          rw [List.intercalate_singleton, same]
      | cons second others =>
          rw [List.getLast?_cons_cons] at ends
          have later := induction ends
          rw [List.intercalate_cons_cons, List.getLast?_append, later]
          cases end_ : last.getLast? with
          | none => exact absurd (List.getLast?_eq_none_iff.mp end_) nonempty
          | some character => rfl

namespace Writable

variable {options : Options} {fields : List Text} (writable : Writable options fields)

include writable

theorem nonempty : fields ≠ [] := by
  rcases writable.last with ⟨last, ends, _⟩
  intro empty
  rw [empty] at ends
  cases ends

theorem lineFeed_not_mem_row : '\n' ∉ row options.separator fields := by
  have other : '\n' ≠ options.separator.character := by
    cases options.separator <;> decide
  exact Text.not_mem_intercalate other fun field member => (writable.plain field member).2

theorem splitFields_row : splitFields options.separator (row options.separator fields) =
    fields := by
  apply splitFields_intercalate writable.nonempty fun field member =>
    (writable.plain field member).1
  rcases writable.last with ⟨last, ends, nonempty, _⟩
  rw [ends]
  exact fun empty => nonempty (Option.some.inj empty)

variable {written : Text} (ended : Text.Ended (row options.separator fields) written)

include ended

theorem chomp_eq : Text.chomp written = row options.separator fields := by
  refine Text.chomp_of_ended_last ?_ ended
  intro character ends
  constructor
  · intro lineFeed
    exact writable.lineFeed_not_mem_row (List.mem_of_getLast? (lineFeed ▸ ends))
  · intro carriageReturn
    rcases writable.last with ⟨last, lastField, nonempty, unended⟩
    rw [getLast?_row lastField nonempty] at ends
    exact unended (carriageReturn ▸ ends)

theorem splitFields_eq : splitFields options.separator (Text.chomp written) = fields := by
  rw [writable.chomp_eq ended, writable.splitFields_row]

theorem isRead : Columns.isRead options written := by
  have visible := writable.visible
  have uncommented := writable.uncommented
  simp only [Columns.isRead, isBlankLine, isComment, writable.chomp_eq ended]
  grind

theorem not_refused : ¬ Refused options written := by
  have uncommented := writable.uncommented
  simp only [Refused, isBlankLine, isComment, writable.chomp_eq ended, writable.splitFields_row,
    writable.count]
  grind

end Writable

theorem isBlankLine_of_ended {blank : Text} (ended : Text.Ended [] blank) :
    isBlankLine blank := by
  rw [isBlankLine, Text.chomp_of_ended (by decide) ended]
  rfl

theorem rows_cons (separator : Separator) (sentence : List (List Text))
    (rest : List (List (List Text))) :
    rows separator (sentence :: rest) =
      sentence.map (row separator) ++ [] :: rows separator rest := by
  rw [rows, List.flatMap_cons, List.append_assoc]
  rfl

section

variable {options : Options} {sentences : List (List (List Text))}

/-- The runs of lines that were written are the sentences. -/
theorem splitFields_runs {lines : List Text}
    (writable : ∀ sentence ∈ sentences, sentence ≠ [] ∧
      ∀ fields ∈ sentence, Writable options fields)
    (ended : List.Forall₂ Text.Ended (rows options.separator sentences) lines) :
    ((runs options lines).map fun run => run.map fun written =>
      splitFields options.separator (Text.chomp written)) = sentences := by
  induction sentences generalizing lines with
  | nil =>
      cases ended
      rfl
  | cons sentence rest induction =>
      rw [List.forall_mem_cons] at writable
      rw [rows_cons] at ended
      rcases List.exists_append_of_forall₂ ended with ⟨run, others, rfl, runEnded, othersEnded⟩
      cases othersEnded with
      | cons blank later =>
          have words := (List.forall₂_and_left _ _).mpr
            ⟨writable.1.2, List.forall₂_map_left_iff.mp runEnded⟩
          have read : ∀ written ∈ run, isRead options written := by
            intro written member
            rcases List.exists_left_of_forall₂ words member with ⟨fields, _, one, ended⟩
            exact one.isRead ended
          have nonempty : run ≠ [] := by
            intro empty
            rw [empty, List.forall₂_nil_right_iff, List.map_eq_nil_iff] at runEnded
            exact writable.1.1 runEnded
          have same := List.map_eq_of_forall₂ words fun one => one.1.splitFields_eq one.2
          rw [runs_append read nonempty (isBlankLine_of_ended blank), List.map_cons, same,
            List.map_id', induction writable.2 later]

variable (writable : ∀ sentence ∈ sentences, ∀ fields ∈ sentence, Writable options fields)

include writable

theorem mem_rows {line : Text} (member : line ∈ rows options.separator sentences) :
    line = [] ∨ ∃ fields, line = row options.separator fields ∧ Writable options fields := by
  rcases List.mem_flatMap.mp member with ⟨sentence, inSentences, inLines⟩
  rcases List.mem_append.mp inLines with inRows | empty
  · rcases List.mem_map.mp inRows with ⟨fields, inSentence, rfl⟩
    exact .inr ⟨fields, rfl, writable sentence inSentences fields inSentence⟩
  · exact .inl (List.mem_singleton.mp empty)

theorem not_refused_of_rows {lines : List Text}
    (ended : List.Forall₂ Text.Ended (rows options.separator sentences) lines) :
    ∀ written ∈ lines, ¬ Refused options written := by
  intro written member
  rcases List.exists_left_of_forall₂ ended member with ⟨line, inRows, ended⟩
  rcases mem_rows writable inRows with rfl | ⟨fields, rfl, one⟩
  · exact fun refused => refused.1 (isBlankLine_of_ended ended)
  · exact one.not_refused ended

theorem ended_lines_rows : List.Forall₂ Text.Ended (rows options.separator sentences)
    (Text.lines ((rows options.separator sentences).flatMap fun line => line ++ ['\n'])) := by
  rw [Text.lines_flatMap, List.forall₂_map_right_iff, List.forall₂_same]
  · exact fun line _ => Text.ended_lineFeed line
  · intro line member
    rcases mem_rows writable member with rfl | ⟨fields, rfl, one⟩
    · exact List.not_mem_nil
    · exact one.lineFeed_not_mem_row

end

/-! ## Reading -/

theorem map_fields_of_spells {options : Options} {found : List (List Text)}
    {sentences : List Sentence} (all : List.Forall₂ (Spells options) found sentences) :
    sentences.map Sentence.fields = found.map fun run =>
      run.map fun written => splitFields options.separator (Text.chomp written) :=
  List.map_eq_of_forall₂ all fun spells => spells

/-- The first line that is out of format is named with its number, counted from one. Where
there is none, the sentences are the runs of the lines that are read, each line being split
into its fields. What can be written is read again as it was, whatever ends the lines, and
the text of the lines is read by these lines. -/
theorem readSentences_grammar (options : Options) (source : Text) :
    (∀ (before after : List Text) (written : Text),
      (∀ earlier ∈ before, ¬ Refused options earlier) → Refused options written →
      readSentences options source (before ++ written :: after) =
        .error (refusal options source (before.length + 1) written)) ∧
    (∀ lines : List Text, (∀ written ∈ lines, ¬ Refused options written) →
      ∃ sentences, readSentences options source lines = .ok sentences ∧
        (sentences.map Sentence.fields = (runs options lines).map fun run =>
          run.map fun written => splitFields options.separator (Text.chomp written)) ∧
        (runs options lines).flatten = lines.filter (isRead options) ∧
        [] ∉ runs options lines) ∧
    ∀ sentences : List (List (List Text)),
      (∀ sentence ∈ sentences, sentence ≠ [] ∧ ∀ fields ∈ sentence, Writable options fields) →
      (∀ lines : List Text, List.Forall₂ Text.Ended (rows options.separator sentences) lines →
        ∃ read, readSentences options source lines = .ok read ∧
          read.map Sentence.fields = sentences) ∧
      List.Forall₂ Text.Ended (rows options.separator sentences)
        (Text.lines ((rows options.separator sentences).flatMap fun line => line ++ ['\n'])) := by
  refine ⟨?_, ?_, ?_⟩
  · intro before after written accepted refused
    rw [readSentences, readLinesFrom_of_refused accepted refused, Nat.add_comm]
    rfl
  · intro lines accepted
    rcases @readSentences_of_accepted options source lines accepted with ⟨sentences, read, spelled⟩
    exact ⟨sentences, read, map_fields_of_spells spelled, flatten_runs options lines,
      nil_not_mem_runs options lines⟩
  · intro sentences writable
    have each : ∀ sentence ∈ sentences, ∀ fields ∈ sentence, Writable options fields :=
      fun sentence member => (writable sentence member).2
    refine ⟨?_, ended_lines_rows each⟩
    intro lines ended
    rcases @readSentences_of_accepted options source lines (not_refused_of_rows each ended) with
      ⟨read, readOk, spelled⟩
    exact ⟨read, readOk, (map_fields_of_spells spelled).trans (splitFields_runs writable ended)⟩

/-- A line without a tag behind a comment that is skipped, a comment inside a sentence, and
fields that are empty or end in a carriage return. -/
theorem readSentences_grammar_tabbed :
    readSentences { separator := .tab, comments := .skip } noSource
        ["a\tO\n".toList, "# b\n".toList, "c\t\n".toList, "d".toList] =
      .error (.fields 3 noSource 2 .tab "c\t".toList) ∧
    (∃ sentences, readSentences { separator := .tab, comments := .skip } noSource
        ["a\tO\r\n".toList, "# b\n".toList, "c\tI-P\t\n".toList, "\t\n".toList] = .ok sentences ∧
      sentences.map Sentence.fields =
        [[["a".toList, "O".toList], ["c".toList, "I-P".toList]]]) ∧
    ∃ read, readSentences { separator := .tab, comments := .skip } noSource
        (Text.lines "\tO\nb\r\tI-P\n\n".toList) = .ok read ∧
      read.map Sentence.fields = [[[[], "O".toList], ["b\r".toList, "I-P".toList]]] := by
  rcases readSentences_grammar { separator := .tab, comments := .skip } noSource with
    ⟨refused, accepted, written⟩
  refine ⟨?_, ?_, ?_⟩
  · refine refused ["a\tO\n".toList, "# b\n".toList] ["d".toList] "c\t\n".toList ?_ ?_
    · simp only [Refused]
      decide
    · exact ⟨by decide, .inr ⟨by decide, by decide⟩⟩
  · rcases accepted ["a\tO\r\n".toList, "# b\n".toList, "c\tI-P\t\n".toList, "\t\n".toList]
      (by simp only [Refused]; decide) with ⟨sentences, read, fields, _⟩
    exact ⟨sentences, read, fields.trans (by decide)⟩
  · have back := written [[[[], "O".toList], ["b\r".toList, "I-P".toList]]] ?_
    · exact back.1 _ back.2
    rw [List.forall_mem_singleton]
    refine ⟨List.cons_ne_nil _ _, ?_⟩
    simp only [List.forall_mem_cons]
    refine ⟨⟨rfl, by decide, ⟨_, rfl, by decide⟩, by decide, fun _ => by decide⟩,
      ⟨rfl, by decide, ⟨_, rfl, by decide⟩, by decide, fun _ => by decide⟩, nofun⟩

end Standoff.Columns
