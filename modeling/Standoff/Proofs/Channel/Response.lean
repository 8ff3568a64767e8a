import Standoff.Channel.Response
import Standoff.Proofs.Result
import Standoff.Proofs.Text

/-! The answers to a sentence: a block of lines, one with a tag for each token and a blank
one behind them. A block of some length has one reading. -/

namespace Standoff

/-! ## Lines with tags -/

/-- A field of a line, a negative index counted from the end. -/
def fieldAt? (fields : List Text) (index : Int) : Option Text :=
  if 0 ≤ index then fields[index.toNat]?
  else if 0 ≤ fields.length + index then fields[(fields.length + index).toNat]?
  else none

/-- A line with something to be seen in it, and the tag in one of its fields. -/
structure TagLine (separator : Text) (field : Int) (line tag : Text) : Prop where
  visible : ¬ Text.isBlank line
  tagged : ∃ content, fieldAt? (Text.pieces separator (Text.chomp line)) field = some content ∧
    ¬ Text.isBlank content ∧ tag = Text.trim content

/-- Lines with tags at the front of answers, and the answers behind them. -/
inductive TagLines (separator : Text) (field : Int) :
    List (Except ReadFault Text) → List Text → List (Except ReadFault Text) → Prop
  | nil {answers : List (Except ReadFault Text)} : TagLines separator field answers [] answers
  | cons {line tag : Text} {answers rest : List (Except ReadFault Text)} {tags : List Text}
      (here : TagLine separator field line tag)
      (later : TagLines separator field answers tags rest) :
      TagLines separator field (.ok line :: answers) (tag :: tags) rest

/-- The answers to one sentence at the front of answers: lines with tags and a blank
line. -/
def Block (separator : Text) (field : Int) (answers : List (Except ReadFault Text))
    (tags : List Text) (rest : List (Except ReadFault Text)) : Prop :=
  ∃ blank, Text.isBlank blank ∧ TagLines separator field answers tags (.ok blank :: rest)

section

variable {separator : Text} {field : Int} {answers : List (Except ReadFault Text)}

theorem TagLines.drop_eq {tags : List Text} {rest : List (Except ReadFault Text)}
    (lines : TagLines separator field answers tags rest) : answers.drop tags.length = rest := by
  induction lines with
  | nil => rfl
  | cons _ _ induction => exact induction

theorem TagLine.unique {line tag other : Text} (first : TagLine separator field line tag)
    (second : TagLine separator field line other) : tag = other := by
  rcases first.tagged with ⟨content, found, _, trimmed⟩
  rcases second.tagged with ⟨same, foundSame, _, trimmedSame⟩
  cases found.symm.trans foundSame
  rw [trimmed, trimmedSame]

theorem TagLines.unique {tags others : List Text} {rest behind : List (Except ReadFault Text)}
    (first : TagLines separator field answers tags rest)
    (second : TagLines separator field answers others behind)
    (count : tags.length = others.length) : tags = others := by
  induction first generalizing others with
  | nil => exact (List.length_eq_zero_iff.mp count.symm).symm
  | cons here _ induction =>
      cases second with
      | nil => cases count
      | cons there later =>
          rw [here.unique there, induction later (Nat.succ.inj count)]

theorem drop_eq_of_block {tags : List Text} {rest : List (Except ReadFault Text)}
    (block : Block separator field answers tags rest) : answers.drop (tags.length + 1) = rest := by
  rcases block with ⟨blank, _, lines⟩
  rw [← List.drop_drop, lines.drop_eq]
  rfl

theorem eq_of_block {tags others : List Text} {rest behind : List (Except ReadFault Text)}
    (block : Block separator field answers tags rest)
    (other : Block separator field answers others behind)
    (count : others.length = tags.length) : others = tags := by
  rcases block with ⟨_, _, lines⟩
  rcases other with ⟨_, _, otherLines⟩
  exact otherLines.unique lines count

end

theorem tagOfLine_eq_ok_iff {separator line tag : Text} {field : Int}
    (nonempty : separator ≠ []) :
    tagOfLine (some separator) field line = .ok tag ↔
      ∃ content, fieldAt? (Text.pieces separator line) field = some content ∧
        ¬ Text.isBlank content ∧ tag = Text.trim content := by
  cases separator with
  | nil => exact absurd rfl nonempty
  | cons first others =>
      simp only [tagOfLine, fieldsOfLine]
      rw [← fieldAt?]
      cases fieldAt? (Text.pieces (first :: others) line) field with
      | none => by_cases least : 0 ≤ field <;> simp [least]
      | some content =>
          by_cases blank : Text.isBlank content
          · simp [blank]
          · simp [blank, @eq_comm _ tag]

/-! ## Readers -/

namespace ResponseReader

structure Awaits (separator : Text) (field : Int) (answers : List (Except ReadFault Text))
    (reader : ResponseReader) : Prop where
  opened : reader.stream.closed = false
  separator : reader.separator = some separator
  field : reader.field = field
  answers : reader.stream.answers = answers

end ResponseReader

end Standoff
