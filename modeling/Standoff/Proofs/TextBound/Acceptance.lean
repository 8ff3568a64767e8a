import Standoff.Proofs.TextBound.Grammar
import Standoff.Proofs.TextBound.RoundTrip

/-! Which lines are accepted as annotations of a text, the spans that they give, and how the
first line that is not accepted is refused. No number is too long to be read here. -/

namespace Standoff

/-! ## The parts of a span -/

namespace Span

def parts (span : Span) : List Span :=
  match span.role with
  | .group members => members
  | .plain | .token | .partOfSpeech .. | .sentence | .entity _ => [span]

/-- What the parts of a span cover, with single spaces between them. -/
def fragments (text : Text) (span : Span) : Text :=
  [' '].intercalate (span.parts.map (covered text))

end Span

namespace TextBound

namespace Entry

variable {text : Text} {entry : Entry} {span : Span}

theorem Marks.fragments_eq (marks : entry.Marks span) (text : Text) :
    span.fragments text = entry.covered text := by
  have ranged := marks.ranges
  rcases entry with ⟨id, category, ranges⟩
  rw [Span.fragments, Entry.covered]
  congr 1
  unfold Over at ranged
  split at ranged
  · rename_i start stop only
    obtain ⟨rfl, rfl, role⟩ := ranged
    subst only
    simp only [Span.parts, role, List.map_cons, List.map_nil, Span.covered, List.drop_take]
  · rcases ranged with ⟨_, _, role⟩
    simp only [Span.parts, role, List.map_map, Function.comp_def, Span.covered, List.drop_take]

theorem within_of_span? (made : entry.span? text = .ok span) : entry.Within text := by
  have fits {range : Nat × Nat} {label : Option Text} {role : Role Span}
      {metadata : Option Value} {part : Span}
      (made : Span.make? text range.1 range.2 label role metadata = .ok part) :
      range.1 ≤ range.2 ∧ range.2 ≤ text.length := by
    rcases Span.make?_eq_ok_iff.mp made with ⟨_, inOrder, inside, _⟩
    omega
  unfold span? at made
  intro range member
  split at made
  · rename_i start stop only
    rw [only, List.mem_singleton] at member
    rw [member]
    exact fits made
  · rcases Result.bind_eq_ok_iff.mp made with ⟨members, each, _⟩
    rw [Result.mapM_eq_ok_iff] at each
    rcases Standoff.List.exists_right_of_forall₂ each member with ⟨part, _, partMade⟩
    exact fits partMade

theorem Formed.unique {line copy otherCopy : Text} {other : Entry}
    (formed : entry.Formed copy line) (otherFormed : other.Formed otherCopy line)
    (begins : line.head? = some 'T') : entry = other ∧ copy = otherCopy := by
  have read := formed.readLine_eq begins [] 1
  rw [otherFormed.readLine_eq begins [] 1] at read
  cases read
  exact ⟨rfl, rfl⟩

theorem Formed.ranges_ne_nil {line copy : Text} (formed : entry.Formed copy line) :
    entry.ranges ≠ [] := by
  intro empty
  rcases formed with ⟨_, _, _, _, _, parts, nonempty, writes, _⟩
  rw [empty, List.forall₂_nil_right_iff] at writes
  exact nonempty writes

/-- An annotation of a text that a line holds with a copy of the text that it covers. -/
structure Accepted (text line : Text) (entry : Entry) : Prop where
  formed : entry.Formed (entry.covered text) line
  within : entry.Within text

end Entry

/-! ## Single lines -/

/-- A line is an annotation of the text, or none at all. -/
def Acceptable (text line : Text) : Prop :=
  line.head? = some 'T' → ∃ entry, Entry.Accepted text line entry

/-- A span is that of the annotation of a line, and its parts cover the copied text. -/
def Gives (text line : Text) (span : Span) : Prop :=
  ∃ entry, Entry.Accepted text line entry ∧ entry.Marks span ∧
    entry.Formed (span.fragments text) line

/-- How a line is refused: for its copy if nothing else is wrong with it, or else by its
number. -/
inductive Refused (text source : Text) (number : Nat) (line : Text) : Error → Prop
  | mismatch {entry : Entry} {copy : Text} {range : Nat × Nat}
      (formed : entry.Formed copy line) (within : entry.Within text)
      (differs : entry.covered text ≠ copy) (first : entry.ranges.head? = some range) :
      Refused text source number line (.alignment (.of copy range.1 text))
  | malformed {error : FormatError}
      (illegible : ¬ ∃ entry copy, Entry.Formed entry copy line ∧ entry.Within text)
      (names : error.Names number source) : Refused text source number line (.format error)

variable {text source line : Text} {number : Nat} {error : Error}

theorem Refused.not_acceptable (refused : Refused text source number line error)
    (begins : line.head? = some 'T') : ¬ Acceptable text line := by
  intro acceptable
  rcases acceptable begins with ⟨entry, accepted⟩
  cases refused with
  | mismatch formed within differs first =>
      rcases accepted.formed.unique formed begins with ⟨rfl, equal⟩
      exact differs equal
  | malformed illegible names => exact illegible ⟨entry, _, accepted.formed, accepted.within⟩

def marked (lines : List Text) : List Text := lines.filter fun line => line.head? = some 'T'

/-- Offsets inside the text leave only the copy to be compared. -/
theorem readSpan_of_within {entry : Entry} {copy : Text} (begins : line.head? = some 'T')
    (formed : entry.Formed copy line) (within : entry.Within text) (source : Text)
    (number : Nat) :
    (∃ span, readSpan none text source number line = .ok (some span) ∧ Gives text line span) ∨
    ∃ error, readSpan none text source number line = .error error ∧
      Refused text source number line error := by
  have read := formed.readLine_eq begins source number
  rcases within.exists_span formed.ranges_ne_nil with ⟨span, made, marks⟩
  by_cases equal : entry.covered text = copy
  · subst equal
    have gives : Gives text line span := by
      refine ⟨entry, ⟨formed, within⟩, marks, ?_⟩
      rw [marks.fragments_eq]
      exact formed
    exact .inl ⟨span, by simp only [readSpan, read, made, if_true], gives⟩
  · rcases List.exists_cons_of_ne_nil formed.ranges_ne_nil with ⟨range, rest, ranges⟩
    have first : entry.ranges.head? = some range := by rw [ranges, List.head?_cons]
    refine .inr ⟨_, ?_, .mismatch formed within equal first⟩
    simp only [readSpan, read, made, if_neg equal, first, Option.map_some, Option.getD_some]

theorem readSpan_of_begins (begins : line.head? = some 'T') (text source : Text) (number : Nat) :
    (∃ span, readSpan none text source number line = .ok (some span) ∧ Gives text line span) ∨
    ∃ error, readSpan none text source number line = .error error ∧
      Refused text source number line error := by
  by_cases legible : ∃ entry copy, Entry.Formed entry copy line ∧ entry.Within text
  · rcases legible with ⟨entry, copy, formed, within⟩
    exact readSpan_of_within begins formed within source number
  · right
    rcases readLine_cases begins source number with
      ⟨entry, copy, formed, read⟩ | ⟨_, error, names, read⟩
    · rcases made : entry.span? text with error | span
      · have names := FormatError.names (.span number source error)
        exact ⟨_, by simp only [readSpan, read, made], .malformed legible names⟩
      · exact absurd ⟨entry, copy, formed, Entry.within_of_span? made⟩ legible
    · exact ⟨_, by simp only [readSpan, read], .malformed legible names⟩

theorem readSpan_of_other (begins : line.head? ≠ some 'T') (limit : Option Nat)
    (text source : Text) (number : Nat) :
    readSpan limit text source number line = .ok none := by
  simp only [readSpan, readLine_of_other begins]

theorem readSpan_cases (text source : Text) (number : Nat) (line : Text) :
    (∃ span, readSpan none text source number line = .ok span ∧ Acceptable text line ∧
      List.Forall₂ (Gives text) (marked [line]) span.toList) ∨
    ∃ error, readSpan none text source number line = .error error ∧ ¬ Acceptable text line ∧
      Refused text source number line error := by
  by_cases begins : line.head? = some 'T'
  · have alone : marked [line] = [line] := List.filter_cons_of_pos (decide_eq_true begins)
    rcases readSpan_of_begins begins text source number with
      ⟨span, read, gives⟩ | ⟨error, failed, refused⟩
    · rcases gives with ⟨entry, accepted, marks⟩
      refine .inl ⟨some span, read, fun _ => ⟨entry, accepted⟩, ?_⟩
      rw [alone]
      exact .cons ⟨entry, accepted, marks⟩ .nil
    · exact .inr ⟨error, failed, refused.not_acceptable begins, refused⟩
  · have unmarked : marked [line] = [] :=
      List.filter_cons_of_neg (by simpa only [decide_eq_true_eq])
    refine .inl ⟨none, readSpan_of_other begins none text source number,
      fun is => absurd is begins, ?_⟩
    rw [unmarked]
    exact .nil

/-! ## Lists of lines -/

/-- All lines are acceptable and give their spans, or the first that is not is refused by
its own number. -/
theorem readSpansFrom_cases (text source : Text) (number : Nat) (lines : List Text) :
    (∃ spans, readSpansFrom none text source number lines = .ok spans ∧
      (∀ line ∈ lines, Acceptable text line) ∧
      List.Forall₂ (Gives text) (marked lines) spans) ∨
    ∃ error front line back, readSpansFrom none text source number lines = .error error ∧
      lines = front ++ line :: back ∧ (∀ earlier ∈ front, Acceptable text earlier) ∧
      ¬ Acceptable text line ∧ Refused text source (number + front.length) line error := by
  induction lines generalizing number with
  | nil => exact .inl ⟨[], rfl, by simp, .nil⟩
  | cons line rest induction =>
      rcases readSpan_cases text source number line with
        ⟨span, read, acceptable, gives⟩ | ⟨error, failed, unacceptable, refused⟩
      · rcases induction (number + 1) with
          ⟨spans, restRead, restAcceptable, restGives⟩ |
          ⟨error, front, later, back, restFailed, split, frontAcceptable, unacceptable, refused⟩
        · refine .inl ⟨span.toList ++ spans, ?_, ?_, ?_⟩
          · rw [readSpansFrom, read, restRead]
            rfl
          · exact List.forall_mem_cons.mpr ⟨acceptable, restAcceptable⟩
          · have parts : marked (line :: rest) = marked [line] ++ marked rest :=
              List.filter_append [line] rest
            rw [parts]
            exact List.rel_append gives restGives
        · refine .inr ⟨error, line :: front, later, back, ?_, by rw [split, List.cons_append],
            List.forall_mem_cons.mpr ⟨acceptable, frontAcceptable⟩, unacceptable, ?_⟩
          · rw [readSpansFrom, read, restFailed]
            rfl
          · rwa [List.length_cons, Nat.add_comm front.length, ← Nat.add_assoc]
      · refine .inr ⟨error, [], line, rest, ?_, rfl, by simp, unacceptable, refused⟩
        rw [readSpansFrom, failed]

/-- Lines are read if and only if each is acceptable. They give one span for each
annotation, in their order, or else the first line that is not acceptable is refused. -/
theorem readSpans_accepts (text source : Text) (lines : List Text) :
    ((∃ read, readSpans text lines source none = .ok read) ↔
      ∀ line ∈ lines, Acceptable text line) ∧
    (∀ spans notice, readSpans text lines source none = .ok (spans, notice) →
      List.Forall₂ (Gives text) (marked lines) spans ∧
        notice = .annotationsRead source spans.length) ∧
    ∀ error, readSpans text lines source none = .error error →
      ∃ front line back, lines = front ++ line :: back ∧
        (∀ earlier ∈ front, Acceptable text earlier) ∧ ¬ Acceptable text line ∧
        Refused text source (front.length + 1) line error := by
  rcases readSpansFrom_cases text source 1 lines with
    ⟨spans, read, acceptable, gives⟩ |
    ⟨error, front, line, back, read, rfl, acceptable, unacceptable, refused⟩
  · have read : readSpans text lines source none =
        .ok (spans, .annotationsRead source spans.length) := by
      rw [readSpans, read]
      rfl
    rw [read]
    refine ⟨⟨fun _ => acceptable, fun _ => ⟨_, rfl⟩⟩, ?_, ?_⟩
    · rintro _ _ ⟨⟩
      exact ⟨gives, rfl⟩
    · intro error failed
      cases failed
  · have read : readSpans text (front ++ line :: back) source none = .error error := by
      rw [readSpans, read]
      rfl
    rw [read]
    refine ⟨⟨?_, ?_⟩, ?_, ?_⟩
    · rintro ⟨_, ⟨⟩⟩
    · intro all
      exact absurd (all line (List.mem_append_right front List.mem_cons_self)) unacceptable
    · intro spans notice read
      cases read
    · rintro _ ⟨⟩
      rw [Nat.add_comm] at refused
      exact ⟨front, line, back, rfl, acceptable, unacceptable, refused⟩

end TextBound

end Standoff
