import Mathlib.Logic.Relation
import Standoff.Proofs.Columns.Joining
import Standoff.Proofs.StoredText

/-! Changes to the layout of a column file that do not change what is read from it: blank
lines where sentences end anyway, comments that are skipped, separators behind the last
field, and other line ends. -/

namespace Standoff.Columns

/-! ## Lines that contribute the same -/

section

variable {options : Options} {line other : Text}

theorem lineOf?_congr (same : Text.chomp line = Text.chomp other) :
    lineOf? options line = lineOf? options other := by
  rw [lineOf?, lineOf?, same]

theorem lineOf?_of_comment (skips : options.comments = .skip) (begins : line.head? = some '#') :
    lineOf? options line = some .skipped := by
  have visible : ¬ Text.isBlank line := by
    intro blank
    have space := List.all_eq_true.mp blank '#' (List.mem_of_head? begins)
    revert space
    decide
  have kept : (Text.chomp line).head? = some '#' := by
    rw [← Text.chomp_append_lineEnd line, List.head?_append] at begins
    cases chomped : Text.chomp line with
    | cons character rest => rwa [chomped] at begins
    | nil =>
        rw [chomped] at begins
        rcases Text.mem_lineEnd (List.mem_of_head? begins) with equal | equal <;> cases equal
  simp only [lineOf?, Text.isBlank_chomp, visible, kept, skips, and_self, if_true]
  rfl

theorem fieldsOf_append_separators (separator : Separator) (line : Text) (count : Nat) :
    fieldsOf separator (line ++ List.replicate count separator.character) =
      fieldsOf separator line := by
  induction count with
  | zero => exact congrArg (fieldsOf separator) (List.append_nil line)
  | succ count induction =>
      rw [List.replicate_succ', ← List.append_assoc, fieldsOf,
        Text.fields_append List.not_mem_nil, List.reverse_append]
      exact induction

def padded (separator : Separator) (count : Nat) (line : Text) : Text :=
  Text.chomp line ++ List.replicate count separator.character ++ Text.lineEnd line

example : padded .space 2 "a O\r\n".toList = "a O  \r\n".toList := by decide

theorem chomp_padded (separator : Separator) (count : Nat) (line : Text) :
    Text.chomp (padded separator count line) =
      Text.chomp line ++ List.replicate count separator.character := by
  refine Text.chomp_of_ended_last ?_ ⟨Text.lineEnd line, fun _ => Text.mem_lineEnd, rfl⟩
  intro character last
  cases count with
  | zero =>
      rw [List.replicate_zero, List.append_nil] at last
      exact Text.getLast?_chomp last
  | succ count =>
      rw [List.replicate_succ', ← List.append_assoc, List.getLast?_concat] at last
      cases last
      cases separator <;> decide

theorem lineOf?_padded (visible : ¬ Text.isBlank line) (count : Nat) :
    lineOf? options (padded options.separator count line) = lineOf? options line := by
  have visible : ¬ Text.isBlank (Text.chomp line) := by rwa [Text.isBlank_chomp]
  have nonempty : Text.chomp line ≠ [] := by
    intro empty
    rw [empty] at visible
    exact visible rfl
  have stillVisible : ¬ Text.isBlank
      (Text.chomp line ++ List.replicate count options.separator.character) := by
    rw [Text.isBlank, List.all_append, Bool.and_eq_true]
    exact fun blank => visible blank.1
  have sameHead : (Text.chomp line ++ List.replicate count options.separator.character).head? =
      (Text.chomp line).head? := List.head?_append_of_ne_nil _ nonempty
  simp only [lineOf?, chomp_padded, if_neg visible, if_neg stillVisible, sameHead,
    fieldsOf_append_separators]

end

/-! ## Edits -/

/-- One change to the layout of lines that are read with given options. -/
inductive Edit (options : Options) : List Text → List Text → Prop
  | blankFirst {blank : Text} (isBlank : Text.isBlank blank) (lines : List Text) :
      Edit options lines (blank :: lines)
  | blankLast {blank : Text} (isBlank : Text.isBlank blank) (lines : List Text) :
      Edit options lines (lines ++ [blank])
  | blankBefore {blank next : Text} (isBlank : Text.isBlank blank)
      (nextBlank : Text.isBlank next) (front back : List Text) :
      Edit options (front ++ next :: back) (front ++ blank :: next :: back)
  | blankBehind {blank previous : Text} (isBlank : Text.isBlank blank)
      (previousBlank : Text.isBlank previous) (front back : List Text) :
      Edit options (front ++ previous :: back) (front ++ previous :: blank :: back)
  | comment {comment : Text} (skips : options.comments = .skip)
      (begins : comment.head? = some '#') (front back : List Text) :
      Edit options (front ++ back) (front ++ comment :: back)
  | separators {line : Text} (visible : ¬ Text.isBlank line) (count : Nat)
      (front back : List Text) :
      Edit options (front ++ line :: back)
        (front ++ padded options.separator count line :: back)
  | lineEnd (line : Text) (front back : List Text) :
      Edit options (front ++ (line ++ ['\n']) :: back) (front ++ (line ++ ['\r', '\n']) :: back)

theorem sentences?_cons_blank {options : Options} {blank : Text} (isBlank : Text.isBlank blank)
    (lines : List Text) : sentences? options (blank :: lines) = sentences? options lines := by
  have parted := @sentences?_append_blank options [] lines blank isBlank
  rw [List.nil_append, sentences?_nil] at parted
  rw [parted]
  cases sentences? options lines <;> rfl

theorem Edit.sentences?_eq {options : Options} {lines others : List Text}
    (edit : Edit options lines others) : sentences? options lines = sentences? options others := by
  cases edit with
  | blankFirst isBlank lines => exact (sentences?_cons_blank isBlank lines).symm
  | blankLast isBlank lines =>
      rw [sentences?_append_blank lines [] isBlank, sentences?_nil]
      cases sentences? options lines with
      | none => rfl
      | some sentences => exact congrArg some (List.append_nil sentences).symm
  | blankBefore isBlank nextBlank front back =>
      rw [sentences?_append_blank front _ isBlank, sentences?_append_blank front back nextBlank,
        sentences?_cons_blank nextBlank]
  | blankBehind isBlank previousBlank front back =>
      rw [sentences?_append_blank front _ previousBlank,
        sentences?_append_blank front _ previousBlank, sentences?_cons_blank isBlank]
  | comment skips begins front back =>
      exact (sentences?_append_skipped front back (lineOf?_of_comment skips begins)).symm
  | separators visible count front back =>
      exact sentences?_append_congr front back (lineOf?_padded visible count).symm
  | lineEnd line front back =>
      refine sentences?_append_congr front back (lineOf?_congr ?_)
      rw [(Text.ended_lineEnds (by simp [Text.lineEnds]) line).chomp_eq,
        (Text.ended_lineEnds (by simp [Text.lineEnds]) line).chomp_eq]

/-- Any number of edits, made or taken back, leave the sentences as they are. -/
theorem sentences?_of_edits {options : Options} {lines others : List Text}
    (edits : Relation.EqvGen (Edit options) lines others) :
    sentences? options lines = sentences? options others := by
  induction edits with
  | rel lines others edit => exact edit.sentences?_eq
  | refl lines => rfl
  | symm lines others _ induction => exact induction.symm
  | trans lines between others _ _ first second => exact first.trans second

/-! ## Documents -/

theorem document?_documentOf {options : Options} {sentences : List Sentence}
    (nonempty : ∀ sentence ∈ sentences, sentence ≠ []) (source otherSource : Text) :
    document? (documentOf options source sentences) =
      document? (documentOf options otherSource sentences) := by
  rcases @exists_documentOf options source sentences nonempty with ⟨document, notices, made⟩
  rcases @exists_documentOf options otherSource sentences nonempty with
    ⟨other, otherNotices, otherMade⟩
  rcases reads_of_documentOf nonempty made with ⟨annotated, all, tiers, _⟩
  rcases reads_of_documentOf nonempty otherMade with ⟨others, othersAll, otherTiers, _⟩
  have sameText : document.text = other.text := by
    rw [text_of_documentOf made, text_of_documentOf otherMade]
  have sameTiers : document.tiers = other.tiers := by
    rw [tiers, otherTiers, tiersOf_eq, tiersOf_eq]
    refine List.map_congr_left ?_
    intro part member
    rw [flatMap_unchanged (nonempty_of_places nonempty) (by rw [sameText]) othersAll all part
      member]
  have same : document = other := by
    rw [document_of_documentOf made, document_of_documentOf otherMade, sameTiers]
  rw [made, otherMade, same]
  rfl

theorem document?_readLines_congr {options : Options} {lines others : List Text}
    (same : sentences? options lines = sentences? options others) (source otherSource : Text) :
    document? (readLines options lines source) =
      document? (readLines options others otherSource) := by
  rw [document?_readLines, document?_readLines, same]
  cases found : sentences? options others with
  | none => rfl
  | some sentences => exact document?_documentOf (nonempty_of_sentences? found) source otherSource

theorem load_eq_readLines {options : Options} {tree : FileTree} {encoding path : Text}
    {lines : List Text} (stored : tree.lines path encoding = .ok (lines, none)) :
    load options tree encoding path = readLines options lines path := by
  simp only [load, stored, readLines]
  cases readSentences options path lines <;> rfl

/-- Edits to the layout change neither whether lines are in format nor the document that they
make. A file makes the document of its text, however its line ends are written. -/
theorem document_unchanged_by_layout (options : Options) :
    (∀ (lines others : List Text) (source otherSource : Text),
      Relation.EqvGen (Edit options) lines others →
      document? (readLines options lines source) =
        document? (readLines options others otherSource)) ∧
    ∀ (tree : FileTree) (encoding path : Text) (lines : List Text) (last lineEnd : Text),
      (∀ line ∈ lines, line.Unbroken) → last.Unbroken → lineEnd ∈ Text.lineEnds →
      tree.Stores path encoding (lines.flatMap (fun line => line ++ lineEnd) ++ last) →
      document? (load options tree encoding path) =
        document? (readText options (lines.flatMap (fun line => line ++ ['\n']) ++ last)) := by
  constructor
  · intro lines others source otherSource edits
    exact document?_readLines_congr (sentences?_of_edits edits) source otherSource
  · intro tree encoding path lines last lineEnd unbroken lastUnbroken known stores
    have stored := stores.lines
    rw [Text.unifyLineEnds_flatMap unbroken lastUnbroken known] at stored
    rw [load_eq_readLines stored, readText]
    exact document?_readLines_congr rfl path noSource

/-- A comment inside a sentence, separators behind a tag, another line end, and a file that
ends its lines in carriage returns. -/
theorem document_unchanged_by_comment_and_carriage_returns :
    let options : Options := { comments := .skip }
    let tree : FileTree := [(["f".toList],
      .file ("Del B-P\rBosque I-P".toList.flatMap Encoding.utf8.encodeCharacter) false)]
    ∃ document : Document, document.text = "Del Bosque \n".toList ∧
      document? (readLines options ["Del B-P\n".toList, "Bosque I-P".toList]) = some document ∧
      document? (readLines options ["Del B-P  \r\n".toList, "# \n".toList,
        "Bosque I-P".toList]) = some document ∧
      document? (load options tree "utf8".toList "f".toList) = some document := by
  intro options tree
  have unchanged := document_unchanged_by_layout options
  have edits : Relation.EqvGen (Edit options) ["Del B-P\n".toList, "Bosque I-P".toList]
      ["Del B-P  \r\n".toList, "# \n".toList, "Bosque I-P".toList] :=
    .trans _ _ _ (.rel _ _ (.separators (by decide) 2 [] ["Bosque I-P".toList]))
      (.trans _ _ _ (.rel _ _ (.lineEnd "Del B-P  ".toList [] ["Bosque I-P".toList]))
        (.rel _ _ (.comment rfl rfl ["Del B-P  \r\n".toList] ["Bosque I-P".toList])))
  have edited := unchanged.1 _ _ noSource noSource edits
  have loaded := unchanged.2 tree "utf8".toList "f".toList ["Del B-P".toList]
    "Bosque I-P".toList ['\r'] (by decide) (by decide) (by decide) ⟨.utf8, _, rfl, rfl, rfl⟩
  exact ⟨_, rfl, rfl, edited.symm, loaded⟩

end Standoff.Columns
