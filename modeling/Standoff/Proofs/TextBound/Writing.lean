import Standoff.Proofs.Text
import Standoff.TextBound

/-! Numbers, offsets and categories are read back as they are written, and what is written
holds none of the characters that separate the parts of an annotation. -/

namespace Standoff

/-! ## Numbers -/

namespace Text

def decimal (number : Nat) : Text := (toString number).toList

theorem decimal_eq_toDigits (number : Nat) : decimal number = Nat.toDigits 10 number := by
  rw [decimal, Nat.toString_eq_repr, Nat.toList_repr]

theorem isDigit_of_mem_decimal {number : Nat} {character : Char}
    (member : character ∈ decimal number) : character.isDigit := by
  rw [decimal_eq_toDigits] at member
  exact Nat.isDigit_of_mem_toDigits (by decide) (by decide) member

theorem not_mem_decimal {character : Char} (other : character.isDigit = false) (number : Nat) :
    character ∉ decimal number := by
  intro member
  rw [isDigit_of_mem_decimal member] at other
  cases other

theorem length_decimal_le {number bound : Nat} (within : number ≤ bound) :
    (decimal number).length ≤ (decimal bound).length := by
  rw [decimal_eq_toDigits, decimal_eq_toDigits]
  have positive : 0 < (Nat.toDigits 10 bound).length := Nat.length_toDigits_pos
  rw [Nat.length_toDigits_le_iff (by decide) positive]
  exact Nat.lt_of_le_of_lt within
    ((Nat.length_toDigits_le_iff (by decide) positive).mp (Nat.le_refl _))

theorem digitValue?_of_isDigit {character : Char} (digit : character.isDigit) :
    digitValue? character = some (character.toNat - '0'.toNat) := by
  rcases Char.isDigit_iff_toNat.mp digit with ⟨least, greatest⟩
  have first : (0x30 ≤ character.toNat && character.toNat < 0x30 + 10) = true := by
    rw [Bool.and_eq_true, decide_eq_true_eq, decide_eq_true_eq]
    exact ⟨least, Nat.lt_succ_of_le greatest⟩
  have found : (zeros.find? fun least =>
      least ≤ character.toNat && character.toNat < least + 10) = some 0x30 :=
    List.find?_cons_of_pos first
  rw [digitValue?, found]
  rfl

theorem number?_decimal (number : Nat) : number? (decimal number) = some number := by
  have digits : digits? (decimal number) =
      some ((decimal number).map fun character => character.toNat - '0'.toNat) := by
    have each : ∀ character ∈ decimal number, digitValue? character =
        some (character.toNat - '0'.toNat) :=
      fun character member => digitValue?_of_isDigit (isDigit_of_mem_decimal member)
    rw [digits?]
    generalize decimal number = written at each
    induction written with
    | nil => rfl
    | cons character rest induction =>
        rw [List.forall_mem_cons] at each
        rw [List.mapM_cons, each.1, induction each.2]
        rfl
  have value : Nat.ofDigitChars 10 (decimal number) 0 = number := by
    rw [decimal_eq_toDigits]
    exact Nat.ofDigitChars_toDigits (by decide) (by decide)
  have nonempty : decimal number ≠ [] := by
    rw [decimal_eq_toDigits]
    exact Nat.toDigits_ne_nil
  rw [number?, if_neg nonempty, digits, Option.map_some, List.foldl_map,
    ← Nat.ofDigitChars_eq_foldl, value]

end Text

namespace TextBound

/-! ## Offsets -/

def writtenRange (range : Nat × Nat) : Text :=
  Text.decimal range.1 ++ ' ' :: Text.decimal range.2

def writtenRanges (ranges : List (Nat × Nat)) : Text :=
  [';'].intercalate (ranges.map writtenRange)

theorem fields_writtenRange (range : Nat × Nat) :
    Text.fields ' ' (writtenRange range) = [Text.decimal range.1, Text.decimal range.2] := by
  rw [writtenRange, Text.fields_cons (Text.not_mem_decimal rfl range.1),
    Text.fields_of_not_mem (Text.not_mem_decimal rfl range.2)]

theorem range?_writtenRange (range : Nat × Nat) : range? (writtenRange range) = some range := by
  simp only [range?, fields_writtenRange, Text.number?_decimal]

theorem not_mem_writtenRange {character : Char} (digit : character.isDigit = false)
    (space : character ≠ ' ') (range : Nat × Nat) : character ∉ writtenRange range := by
  intro member
  rw [writtenRange, List.mem_append, List.mem_cons] at member
  rcases member with start | equal | stop
  · exact Text.not_mem_decimal digit range.1 start
  · exact space equal
  · exact Text.not_mem_decimal digit range.2 stop

theorem not_mem_writtenRanges {character : Char} (digit : character.isDigit = false)
    (space : character ≠ ' ') (semicolon : character ≠ ';') (ranges : List (Nat × Nat)) :
    character ∉ writtenRanges ranges := by
  apply Text.not_mem_intercalate semicolon
  intro written member
  rcases List.mem_map.mp member with ⟨range, _, rfl⟩
  exact not_mem_writtenRange digit space range

theorem pairs_writtenRanges {ranges : List (Nat × Nat)} (nonempty : ranges ≠ []) :
    pairs (writtenRanges ranges) = ranges.map writtenRange := by
  have ended : (writtenRanges ranges).getLast? ≠ some '\n' := by
    intro last
    exact not_mem_writtenRanges rfl (by decide) (by decide) ranges (List.mem_of_getLast? last)
  rw [pairs, if_neg ended, writtenRanges, Text.fields_intercalate]
  · exact fun none => nonempty (List.map_eq_nil_iff.mp none)
  · intro written member
    rcases List.mem_map.mp member with ⟨range, _, rfl⟩
    exact not_mem_writtenRange rfl (by decide) range

theorem ranges?_writtenRanges {ranges : List (Nat × Nat)} (nonempty : ranges ≠ []) :
    ranges? (writtenRanges ranges) = some ranges := by
  have each : range? ∘ writtenRange = fun range => pure range := funext range?_writtenRange
  rw [ranges?, pairs_writtenRanges nonempty, List.mapM_map, each, List.mapM_pure, List.map_id']
  rfl

/-- Offsets are not too long to be read if the greatest number they can be is not. -/
theorem overlong?_writtenRanges {limit : Option Nat} {bound : Nat} {ranges : List (Nat × Nat)}
    (nonempty : ranges ≠ [])
    (readable : ∀ most ∈ limit, (Text.decimal bound).length ≤ most)
    (within : ∀ range ∈ ranges, range.1 ≤ bound ∧ range.2 ≤ bound) :
    overlong? limit (writtenRanges ranges) = none := by
  cases limit with
  | none => rfl
  | some most =>
      rw [overlong?, pairs_writtenRanges nonempty]
      simp only [Option.map_eq_none_iff, List.find?_eq_none, List.flatMap_map,
        fields_writtenRange, List.mem_flatMap, decide_eq_true_eq, Nat.not_lt]
      intro number written
      rcases written with ⟨range, member, written⟩
      have short {number : Nat} (small : number ≤ bound) :
          (Text.decimal number).length ≤ most :=
        Nat.le_trans (Text.length_decimal_le small) (readable most rfl)
      simp only [List.mem_cons, List.not_mem_nil, or_false] at written
      rcases written with rfl | rfl
      · exact short (within range member).1
      · exact short (within range member).2

/-! ## Categories -/

namespace Category

/-- The characters of which types and subcategories consist. -/
def isMark (character : Char) : Bool :=
  isLetter character || isDigit character || character == '_' || character == '-' ||
    character == '.'

theorem isMark_of_isType {type : Text} (isType : Category.isType type) :
    ∀ character ∈ type, isMark character := by
  unfold Category.isType at isType
  split at isType
  · rename_i first second rest
    rw [Bool.and_eq_true, List.all_eq_true] at isType
    rw [List.forall_mem_cons]
    refine ⟨?_, isType.2⟩
    rcases Bool.or_eq_true_iff.mp isType.1 with letter | underscore
    · simp [isMark, letter]
    · simp [isMark, underscore]
  · cases isType

theorem isMark_of_isSubcategory {subcategory : Text}
    (isSubcategory : Category.isSubcategory subcategory) :
    ∀ character ∈ subcategory, isMark character := by
  unfold Category.isSubcategory at isSubcategory
  split at isSubcategory
  · rename_i first second rest
    rw [Bool.and_eq_true, List.all_eq_true] at isSubcategory
    rw [List.forall_mem_cons]
    refine ⟨by simp [isMark, isSubcategory.1], ?_⟩
    intro character member
    rw [isMark, isSubcategory.2 character member]
    rfl
  · cases isSubcategory

/-- A category that can be written. -/
structure Valid (category : Category) : Prop where
  isType : Category.isType category.type
  isSubcategory : ∀ subcategory ∈ category.subcategory, Category.isSubcategory subcategory

variable {category : Category}

theorem Valid.parse?_render (valid : category.Valid) : parse? category.render = some category := by
  have absent : ':' ∉ category.type := by
    intro member
    exact absurd (isMark_of_isType valid.isType ':' member) (by decide)
  rcases category with ⟨type, _ | subcategory⟩
  · rw [render, parse?, Text.cut_of_not_mem absent]
    simp only [valid.isType, if_true]
  · rw [render, parse?, Text.cut_append absent]
    simp only [valid.isType, valid.isSubcategory subcategory rfl, Bool.and_self, if_true]

theorem Valid.not_mem_render (valid : category.Valid) {character : Char}
    (mark : isMark character = false) (colon : character ≠ ':') :
    character ∉ category.render := by
  have absent {written : Text} (marks : ∀ character ∈ written, isMark character) :
      character ∉ written := by
    intro member
    rw [marks character member] at mark
    cases mark
  have inType := absent (isMark_of_isType valid.isType)
  rcases category with ⟨type, _ | subcategory⟩
  · exact inType
  · intro inRendered
    rw [render, List.mem_append, List.mem_cons] at inRendered
    rcases inRendered with member | same | member
    · exact inType member
    · exact colon same
    · exact absent (isMark_of_isSubcategory (valid.isSubcategory subcategory rfl)) member

end Category

end TextBound

end Standoff
