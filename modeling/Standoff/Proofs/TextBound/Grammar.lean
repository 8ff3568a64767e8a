import Mathlib.Data.Nat.Digits.Defs
import Standoff.Proofs.List
import Standoff.Proofs.Result
import Standoff.Proofs.TextBound.Writing

/-! What a line of an annotation has to look like, said of its characters, and that it is
read exactly if it looks so. Other programs may write numbers with zeros in front and in
digits of any script, which `Entry.render` never does. -/

namespace Standoff

/-! ## Numbers -/

namespace Text

/-- A text of decimal digits, the most significant one first, that stands for a number. -/
def Numeral (text : Text) (number : Nat) : Prop :=
  text ≠ [] ∧ ∃ digits, List.Forall₂ (fun character digit => digitValue? character = some digit)
    text digits ∧ Nat.ofDigits 10 digits.reverse = number

theorem foldl_eq_ofDigits (digits : List Nat) :
    digits.foldl (fun value digit => 10 * value + digit) 0 = Nat.ofDigits 10 digits.reverse := by
  rw [Nat.ofDigits_eq_foldr, List.foldr_reverse]
  simp only [Nat.cast_id, Nat.add_comm]

theorem number?_eq_some_iff {text : Text} {number : Nat} :
    number? text = some number ↔ Numeral text number := by
  rw [number?, Numeral, digits?]
  by_cases empty : text = []
  · rw [if_pos empty]
    exact ⟨fun read => (Option.some_ne_none number read.symm).elim,
      fun numeral => absurd empty numeral.1⟩
  · rw [if_neg empty]
    simp only [Option.map_eq_some_iff, Result.mapM_eq_some_iff, foldl_eq_ofDigits, ne_eq, empty,
      not_false_eq_true, true_and]

theorem Numeral.not_mem {text : Text} {number : Nat} (numeral : Numeral text number)
    {character : Char} (other : digitValue? character = none) : character ∉ text := by
  intro member
  rcases numeral with ⟨_, digits, values, _⟩
  rcases Standoff.List.exists_right_of_forall₂ values member with ⟨digit, _, value⟩
  rw [other] at value
  cases value

end Text

namespace TextBound

/-! ## Offsets -/

/-- Two numbers with a space between them. -/
def WritesRange (written : Text) (range : Nat × Nat) : Prop :=
  ∃ start stop, written = start ++ ' ' :: stop ∧ Text.Numeral start range.1 ∧
    Text.Numeral stop range.2

/-- One pair of numbers or several with semicolons between them, and perhaps one line feed. -/
def WritesRanges (written : Text) (ranges : List (Nat × Nat)) : Prop :=
  ∃ parts, parts ≠ [] ∧ List.Forall₂ WritesRange parts ranges ∧
    ∃ lineEnd ∈ [[], ['\n']], written = [';'].intercalate parts ++ lineEnd

theorem WritesRange.not_mem {written : Text} {range : Nat × Nat}
    (writes : WritesRange written range) {character : Char}
    (digit : Text.digitValue? character = none) (space : character ≠ ' ') :
    character ∉ written := by
  rcases writes with ⟨start, stop, rfl, first, second⟩
  rw [List.mem_append, List.mem_cons]
  rintro (inStart | same | inStop)
  · exact first.not_mem digit inStart
  · exact space same
  · exact second.not_mem digit inStop

theorem range?_eq_some_iff {written : Text} {range : Nat × Nat} :
    range? written = some range ↔ WritesRange written range := by
  constructor
  · intro read
    unfold range? at read
    split at read
    · rename_i start stop fields
      split at read
      · rename_i first second startRead stopRead
        cases read
        refine ⟨start, stop, ?_, Text.number?_eq_some_iff.mp startRead,
          Text.number?_eq_some_iff.mp stopRead⟩
        rw [(Text.fields_eq_iff.mp fields).joined, List.intercalate_cons_cons,
          List.intercalate_singleton, List.append_assoc, List.singleton_append]
      · cases read
    · cases read
  · rintro ⟨start, stop, rfl, first, second⟩
    have fields : Text.fields ' ' (start ++ ' ' :: stop) = [start, stop] := by
      rw [Text.fields_cons (first.not_mem rfl), Text.fields_of_not_mem (second.not_mem rfl)]
    simp only [range?, fields, Text.number?_eq_some_iff.mpr first,
      Text.number?_eq_some_iff.mpr second]

/-- The line feed that may be left over at the end is none of the pairs. -/
theorem pairs_eq_iff {written : Text} {parts : List Text}
    (unended : ∀ part ∈ parts, '\n' ∉ part) :
    pairs written = parts ↔
      ∃ lineEnd ∈ [[], ['\n']], ∃ body, written = body ++ lineEnd ∧
        Text.HasFields ';' parts body := by
  constructor
  · intro equal
    unfold pairs at equal
    split at equal
    · rename_i ended
      rcases List.getLast?_eq_some_iff.mp ended with ⟨body, rfl⟩
      rw [List.dropLast_concat] at equal
      exact ⟨['\n'], by simp, body, rfl, Text.fields_eq_iff.mp equal⟩
    · exact ⟨[], by simp, written, (List.append_nil written).symm, Text.fields_eq_iff.mp equal⟩
  · rintro ⟨lineEnd, known, body, rfl, fields⟩
    have absent : '\n' ∉ body := by
      rw [fields.joined]
      exact Text.not_mem_intercalate (by decide) unended
    rw [← Text.fields_eq_iff.mpr fields, pairs]
    simp only [List.mem_cons, List.not_mem_nil, or_false] at known
    rcases known with rfl | rfl
    · rw [List.append_nil, if_neg fun last => absent (List.mem_of_getLast? last)]
    · rw [if_pos List.getLast?_concat, List.dropLast_concat]

theorem not_mem_of_writesRange {parts : List Text} {ranges : List (Nat × Nat)}
    (writes : List.Forall₂ WritesRange parts ranges) {character : Char}
    (digit : Text.digitValue? character = none) (space : character ≠ ' ') :
    ∀ part ∈ parts, character ∉ part := by
  intro part member
  rcases Standoff.List.exists_right_of_forall₂ writes member with ⟨range, _, writesRange⟩
  exact writesRange.not_mem digit space

theorem ranges?_eq_some_iff {written : Text} {ranges : List (Nat × Nat)} :
    ranges? written = some ranges ↔ WritesRanges written ranges := by
  rw [ranges?, Result.mapM_eq_some_iff]
  simp only [range?_eq_some_iff]
  constructor
  · intro writes
    have unended : ∀ part ∈ pairs written, '\n' ∉ part :=
      not_mem_of_writesRange writes rfl (by decide)
    rcases (pairs_eq_iff unended).mp rfl with ⟨lineEnd, known, body, rfl, fields⟩
    exact ⟨_, fields.nonempty, writes, lineEnd, known, by rw [← fields.joined]⟩
  · rintro ⟨parts, nonempty, writes, lineEnd, known, rfl⟩
    have unended : ∀ part ∈ parts, '\n' ∉ part :=
      not_mem_of_writesRange writes rfl (by decide)
    have absent : ∀ part ∈ parts, ';' ∉ part :=
      not_mem_of_writesRange writes rfl (by decide)
    rw [(pairs_eq_iff unended).mpr ⟨lineEnd, known, _, rfl, nonempty, rfl, absent⟩]
    exact writes

example : ranges? "\u0661\u0660 014;0 5\n".toList = some [(10, 14), (0, 5)] := by decide

/-! ## Categories -/

/-- A text of at least two characters, of which the first is of one class and the others are
of another. -/
def Word (first later : Char → Bool) (written : Text) : Prop :=
  ∃ head tail, written = head :: tail ∧ first head ∧ tail ≠ [] ∧
    ∀ character ∈ tail, later character

theorem word_iff {first later : Char → Bool} {written : Text} :
    (match written with
      | head :: second :: rest => first head && (second :: rest).all later
      | _ => false) = true ↔ Word first later written := by
  constructor
  · intro valid
    split at valid
    · rename_i head second rest
      rw [Bool.and_eq_true, List.all_eq_true] at valid
      exact ⟨head, second :: rest, rfl, valid.1, List.cons_ne_nil second rest, valid.2⟩
    · cases valid
  · rintro ⟨head, _ | ⟨second, rest⟩, rfl, begins, nonempty, others⟩
    · exact absurd rfl nonempty
    · rw [Bool.and_eq_true, List.all_eq_true]
      exact ⟨begins, others⟩

namespace Category

theorem isType_iff {type : Text} : isType type ↔
    Word (fun character => isLetter character || character == '_') isMark type :=
  word_iff

theorem isSubcategory_iff {subcategory : Text} : isSubcategory subcategory ↔
    Word isLetter (fun character => isLetter character || isDigit character) subcategory :=
  word_iff

/-- How a category is written: a type, and perhaps a colon and a subcategory. -/
structure Writes (category : Category) (written : Text) : Prop where
  type : Word (fun character => isLetter character || character == '_') isMark category.type
  subcategory : ∀ subcategory ∈ category.subcategory,
    Word isLetter (fun character => isLetter character || isDigit character) subcategory
  rendered : written = category.render

theorem parse?_eq_some_iff {written : Text} {category : Category} :
    parse? written = some category ↔ category.Writes written := by
  constructor
  · intro read
    unfold parse? at read
    split at read
    · rename_i uncut
      split at read
      · rename_i valid
        cases read
        exact ⟨isType_iff.mp valid, by simp, rfl⟩
      · cases read
    · rename_i type subcategory cut
      split at read
      · rename_i valid
        rw [Bool.and_eq_true] at valid
        cases read
        refine ⟨isType_iff.mp valid.1, ?_, (Text.cut_eq_some_iff.mp cut).1⟩
        rintro _ ⟨⟩
        exact isSubcategory_iff.mp valid.2
      · cases read
  · rintro ⟨type, subcategory, rfl⟩
    apply Valid.parse?_render
    exact ⟨isType_iff.mpr type, fun found member => isSubcategory_iff.mpr
      (subcategory found member)⟩

end Category

/-! ## Lines -/

/-- A line, apart from its line end, holds an annotation and a copy of a text. -/
def Entry.Formed (entry : Entry) (copy line : Text) : Prop :=
  ∃ category offsets, ' ' ∉ category ∧
    Text.HasFields '\t' [entry.id, category ++ ' ' :: offsets, copy] (Text.chomp line) ∧
    entry.category.Writes category ∧ WritesRanges offsets entry.ranges

namespace FormatError

def place : FormatError → Nat × Text
  | entry number source _ | offsets number source _ | category number source _
  | span number source _ => (number, source)

/-- The message of an error names a line by its number and its source. -/
def Names (number : Nat) (source : Text) (error : FormatError) : Prop :=
  ∃ front ∈ ["Invalid text annotation on line ", "Invalid offsets on line ", "Line "],
    ∃ back, error.message =
      front ++ toString number ++ " of " ++ String.ofList source ++ back

theorem names (error : FormatError) : error.Names error.place.1 error.place.2 := by
  have regroup (front number between source first second third : String) :
      front ++ (number ++ between ++ source) ++ first ++ second ++ third =
        front ++ number ++ between ++ source ++ (first ++ second ++ third) := by
    simp only [String.append_assoc]
  have regroupTwo (front number between source first second : String) :
      front ++ (number ++ between ++ source) ++ first ++ second =
        front ++ number ++ between ++ source ++ (first ++ second) := by
    simp only [String.append_assoc]
  cases error with
  | entry number source line => exact ⟨_, by simp, _, regroup _ _ _ _ _ _ _⟩
  | offsets number source written => exact ⟨_, by simp, _, regroup _ _ _ _ _ _ _⟩
  | category number source written => exact ⟨_, by simp, _, regroupTwo _ _ _ _ _ _⟩
  | span number source error => exact ⟨_, by simp, _, regroupTwo _ _ _ _ _ _⟩

end FormatError

variable {line : Text}

theorem readLine_of_other (begins : line.head? ≠ some 'T') (limit : Option Nat) (source : Text)
    (number : Nat) : readLine limit source number line = .ok none := by
  rw [readLine, if_pos]
  rwa [ne_eq, Text.head?_chomp_eq_iff (by decide) (by decide)]

theorem Entry.Formed.readLine_eq {entry : Entry} {copy : Text} (formed : entry.Formed copy line)
    (begins : line.head? = some 'T') (source : Text) (number : Nat) :
    readLine none source number line = .ok (some (entry, copy)) := by
  rcases formed with ⟨category, offsets, uncut, fields, writes, ranges⟩
  have begins := (Text.head?_chomp_eq_iff (by decide) (by decide)).mpr begins
  simp only [readLine, begins, Text.fields_eq_iff.mpr fields, Text.cut_append uncut,
    ranges?_eq_some_iff.mpr ranges, Category.parse?_eq_some_iff.mpr writes, overlong?, ne_eq,
    not_true, if_false]

theorem readLine_cases (begins : line.head? = some 'T') (source : Text) (number : Nat) :
    (∃ entry copy, entry.Formed copy line ∧
      readLine none source number line = .ok (some (entry, copy))) ∨
    ((¬ ∃ entry copy, Entry.Formed entry copy line) ∧
      ∃ error : FormatError, error.Names number source ∧
        readLine none source number line = .error (.format error)) := by
  by_cases formed : ∃ entry copy, Entry.Formed entry copy line
  · rcases formed with ⟨entry, copy, formed⟩
    exact .inl ⟨entry, copy, formed, formed.readLine_eq begins source number⟩
  · refine .inr ⟨formed, ?_⟩
    have begins := (Text.head?_chomp_eq_iff (by decide) (by decide)).mpr begins
    simp only [readLine, begins, ne_eq, not_true, if_false]
    split
    · rename_i id information copy fields
      split
      · exact ⟨_, FormatError.names (.entry number source _), rfl⟩
      · rename_i written offsets cut
        split
        · exact ⟨_, FormatError.names (.offsets number source _), rfl⟩
        · exact ⟨_, FormatError.names (.category number source _), rfl⟩
        · rename_i ranges category rangesRead categoryRead
          rcases Text.cut_eq_some_iff.mp cut with ⟨rfl, uncut⟩
          exact absurd ⟨⟨id, category, ranges⟩, copy, written, offsets, uncut,
            Text.fields_eq_iff.mp fields, Category.parse?_eq_some_iff.mp categoryRead,
            ranges?_eq_some_iff.mp rangesRead⟩ formed
    · exact ⟨_, FormatError.names (.entry number source _), rfl⟩

end TextBound

end Standoff
