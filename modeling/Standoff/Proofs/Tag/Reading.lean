import Standoff.Proofs.List
import Standoff.Tag.Segment

/-! What a tag column says. `Written` is the grammar of the cells; reading a
column finds the tag of every cell, or stops at the first cell without one. -/

namespace Standoff

namespace Tag

/-! ## Cells -/

/-- A cell that says a tag. A type stands on one line, and a line feed may be
left over behind it. -/
inductive Written : Option Text → Tag → Prop
  | outside : Written (some ['O']) .outside
  | begin (type lineEnd : Text) (valid : ValidType type)
      (ends : lineEnd = [] ∨ lineEnd = ['\n']) :
      Written (some ('B' :: '-' :: (type ++ lineEnd))) (.begin type)
  | inside (type lineEnd : Text) (valid : ValidType type)
      (ends : lineEnd = [] ∨ lineEnd = ['\n']) :
      Written (some ('I' :: '-' :: (type ++ lineEnd))) (.inside type)

def Readable (cell : Option Text) : Prop := ∃ tag, Written cell tag

theorem parseType?_eq_some_iff {written type : Text} :
    parseType? written = some type ↔
      ValidType type ∧ ∃ lineEnd, (lineEnd = [] ∨ lineEnd = ['\n']) ∧
        written = type ++ lineEnd := by
  constructor
  · intro parsed
    unfold parseType? at parsed
    by_cases last : written.getLast? = some '\n'
    · have whole : written = written.dropLast ++ ['\n'] :=
        (List.dropLast_append_getLast? '\n' last).symm
      simp only [last, if_true] at parsed
      split at parsed
      · rename_i valid
        cases parsed
        exact ⟨valid, ['\n'], .inr rfl, whole⟩
      · cases parsed
    · simp only [last, if_false] at parsed
      split at parsed
      · rename_i valid
        cases parsed
        exact ⟨valid, [], .inl rfl, (List.append_nil _).symm⟩
      · cases parsed
  · rintro ⟨valid, lineEnd, rfl | rfl, rfl⟩
    · rw [List.append_nil]
      exact parseType?_of_valid valid
    · simp only [parseType?, List.getLast?_concat, if_true, List.dropLast_concat]
      exact if_pos valid

theorem parse?_eq_some_iff {cell : Option Text} {tag : Tag} :
    parse? cell = some tag ↔ Written cell tag := by
  constructor
  · intro parsed
    unfold parse? at parsed
    split at parsed
    · cases parsed
      exact .outside
    · rcases Option.map_eq_some_iff.mp parsed with ⟨type, typed, rfl⟩
      rcases parseType?_eq_some_iff.mp typed with ⟨valid, lineEnd, ends, rfl⟩
      exact .begin type lineEnd valid ends
    · rcases Option.map_eq_some_iff.mp parsed with ⟨type, typed, rfl⟩
      rcases parseType?_eq_some_iff.mp typed with ⟨valid, lineEnd, ends, rfl⟩
      exact .inside type lineEnd valid ends
    · cases parsed
  · intro written
    cases written with
    | outside => rfl
    | begin type lineEnd valid ends =>
        have typed := parseType?_eq_some_iff.mpr ⟨valid, lineEnd, ends, rfl⟩
        simp only [parse?, typed, Option.map_some]
    | inside type lineEnd valid ends =>
        have typed := parseType?_eq_some_iff.mpr ⟨valid, lineEnd, ends, rfl⟩
        simp only [parse?, typed, Option.map_some]

theorem parse?_eq_none_iff {cell : Option Text} : parse? cell = none ↔ ¬ Readable cell := by
  rw [Option.eq_none_iff_forall_ne_some]
  constructor
  · rintro none ⟨tag, written⟩
    exact none tag (parse?_eq_some_iff.mpr written)
  · intro unreadable tag parsed
    exact unreadable ⟨tag, parse?_eq_some_iff.mp parsed⟩

theorem valid_of_written {cell : Option Text} {tag : Tag} (written : Written cell tag)
    {type : Text} (typed : tag.type? = some type) : ValidType type := by
  cases written with
  | outside => cases typed
  | begin _ _ valid _ =>
      cases typed
      exact valid
  | inside _ _ valid _ =>
      cases typed
      exact valid

/-! ## Columns -/

theorem readAllFrom_eq_ok_iff {index : Int} {column : List (Option Text)} {tags : List Tag} :
    readAllFrom index column = .ok tags ↔ List.Forall₂ Written column tags := by
  induction column generalizing index tags with
  | nil =>
      rw [List.forall₂_nil_left_iff]
      exact ⟨fun read => (Except.ok.inj read).symm, fun nil => congrArg _ nil.symm⟩
  | cons cell rest induction =>
      rw [List.forall₂_cons_left_iff]
      constructor
      · intro read
        simp only [readAllFrom, Tag.read] at read
        cases parsed : parse? cell with
        | none =>
            rw [parsed] at read
            cases read
        | some tag =>
            rw [parsed] at read
            cases later : readAllFrom (index + 1) rest with
            | error error =>
                simp only [later] at read
                cases read
            | ok tags =>
                simp only [later] at read
                cases read
                exact ⟨tag, tags, parse?_eq_some_iff.mp parsed, induction.mp later, rfl⟩
      · rintro ⟨tag, tags, written, later, rfl⟩
        simp only [readAllFrom, Tag.read, parse?_eq_some_iff.mpr written,
          induction.mpr later]
        rfl

theorem readAll_eq_ok_iff {column : List (Option Text)} {tags : List Tag} :
    readAll column = .ok tags ↔ List.Forall₂ Written column tags :=
  readAllFrom_eq_ok_iff

theorem written_unique {column : List (Option Text)} {tags others : List Tag}
    (written : List.Forall₂ Written column tags)
    (othersWritten : List.Forall₂ Written column others) : tags = others :=
  Except.ok.inj ((readAll_eq_ok_iff.mpr written).symm.trans (readAll_eq_ok_iff.mpr othersWritten))

theorem readAllFrom_eq_error_of_unreadable {index : Int} {before after : List (Option Text)}
    {cell : Option Text} (readable : ∀ earlier ∈ before, Readable earlier)
    (unreadable : ¬ Readable cell) :
    readAllFrom index (before ++ cell :: after) = .error ⟨cell, index + before.length⟩ := by
  induction before generalizing index with
  | nil =>
      simp only [List.nil_append, readAllFrom, Tag.read, parse?_eq_none_iff.mpr unreadable,
        List.length_nil, Int.natCast_zero, Int.add_zero]
  | cons first before induction =>
      rcases readable first List.mem_cons_self with ⟨tag, written⟩
      have later := @induction (index + 1) fun earlier member =>
        readable earlier (List.mem_cons_of_mem first member)
      simp only [List.cons_append, readAllFrom, Tag.read, parse?_eq_some_iff.mpr written,
        later, List.length_cons, Int.natCast_add, Int.natCast_one]
      rw [Int.add_assoc, Int.add_comm 1]
      rfl

theorem readAll_eq_error_of_unreadable {before after : List (Option Text)}
    {cell : Option Text} (readable : ∀ earlier ∈ before, Readable earlier)
    (unreadable : ¬ Readable cell) :
    readAll (before ++ cell :: after) = .error ⟨cell, before.length⟩ := by
  rw [readAll, readAllFrom_eq_error_of_unreadable readable unreadable, Int.zero_add]

theorem exists_first_unreadable {column : List (Option Text)}
    (unreadable : ∃ cell ∈ column, ¬ Readable cell) :
    ∃ before cell after, column = before ++ cell :: after ∧
      (∀ earlier ∈ before, Readable earlier) ∧ ¬ Readable cell :=
  List.exists_first_not unreadable

theorem readable_of_written {column : List (Option Text)} {tags : List Tag}
    (written : List.Forall₂ Written column tags) : ∀ cell ∈ column, Readable cell := by
  intro cell member
  rcases List.exists_right_of_forall₂ written member with ⟨tag, _, holds⟩
  exact ⟨tag, holds⟩

theorem exists_tags_of_readable {column : List (Option Text)}
    (readable : ∀ cell ∈ column, Readable cell) :
    ∃ tags, List.Forall₂ Written column tags :=
  List.exists_forall₂ readable

/-- The first cell that holds no tag, with its index. -/
def firstUnreadable (column : List (Option Text)) : Option DecodeError :=
  (column.zipIdx.find? fun cell => (parse? cell.1).isNone).map fun cell => ⟨cell.1, cell.2⟩

theorem firstUnreadable_eq_none_iff {column : List (Option Text)} :
    firstUnreadable column = none ↔ ∀ cell ∈ column, Readable cell := by
  rw [firstUnreadable, Option.map_eq_none_iff, List.find?_eq_none]
  constructor
  · intro none cell member
    rcases List.mem_iff_getElem?.mp member with ⟨index, found⟩
    by_contra unreadable
    exact none (cell, index) (List.mk_mem_zipIdx_iff_getElem?.mpr found)
      (Option.isNone_iff_eq_none.mpr (parse?_eq_none_iff.mpr unreadable))
  · intro readable cell member parsed
    have inColumn := List.mem_of_getElem? (List.mem_zipIdx_iff_getElem?.mp member)
    exact parse?_eq_none_iff.mp (Option.isNone_iff_eq_none.mp parsed) (readable cell.1 inColumn)

theorem firstUnreadable_of_unreadable {before after : List (Option Text)} {cell : Option Text}
    (readable : ∀ earlier ∈ before, Readable earlier) (unreadable : ¬ Readable cell) :
    firstUnreadable (before ++ cell :: after) = some ⟨cell, before.length⟩ := by
  have none := Option.map_eq_none_iff.mp (firstUnreadable_eq_none_iff.mpr readable)
  rw [firstUnreadable, List.zipIdx_append, List.find?_append, none, Option.none_or,
    List.zipIdx_cons, List.find?_cons_of_pos]
  · simp
  · exact Option.isNone_iff_eq_none.mpr (parse?_eq_none_iff.mpr unreadable)

/-- Reading a column stops at the first cell that holds no tag. -/
theorem readAll_of_firstUnreadable {column : List (Option Text)} {error : DecodeError}
    (found : firstUnreadable column = some error) : readAll column = .error error := by
  have unreadable : ∃ cell ∈ column, ¬ Readable cell := by
    by_contra none
    simp only [not_exists, not_and, not_not] at none
    cases found.symm.trans (firstUnreadable_eq_none_iff.mpr none)
  rcases exists_first_unreadable unreadable with ⟨before, cell, after, rfl, readable, without⟩
  cases found.symm.trans (firstUnreadable_of_unreadable readable without)
  exact readAll_eq_error_of_unreadable readable without

end Tag

end Standoff
