import Mathlib.Data.List.DropRight
import Mathlib.Data.List.Forall2
import Mathlib.Data.List.TakeWhile
import Standoff.Text.Line

/-! Texts that are put together and taken apart again: lines with their ends, and fields
between separators. -/

namespace Standoff.Text

/-! ## White space -/

theorem dropEndWhile_of_last {droppable : Char → Bool} {text : Text}
    (kept : ∀ character, text.getLast? = some character → ¬ droppable character) :
    dropEndWhile droppable text = text := by
  cases last : text.getLast? with
  | none =>
      rw [List.getLast?_eq_none_iff] at last
      rw [last]
      rfl
  | some character =>
      have stays := kept character last
      rcases List.getLast?_eq_some_iff.mp last with ⟨front, rfl⟩
      exact dropEndWhile_concat_of_neg stays front

theorem dropEndWhile_append {droppable : Char → Bool} {tail : Text}
    (dropped : ∀ character ∈ tail, droppable character) (text : Text) :
    dropEndWhile droppable (text ++ tail) = dropEndWhile droppable text := by
  rw [dropEndWhile, List.reverse_append, List.dropWhile_append_of_pos, dropEndWhile]
  simpa using dropped

theorem trim_of_isBlank {text : Text} (blank : isBlank text) : trim text = [] := by
  have dropped : text.dropWhile isSpace = [] :=
    List.dropWhile_eq_nil_iff.mpr (List.all_eq_true.mp blank)
  rw [trim, dropped]
  rfl

theorem head?_trim {text : Text} {first : Char} (begins : (trim text).head? = some first) :
    ¬ isSpace first := by
  have front : trim text <+: text.dropWhile isSpace := List.rdropWhile_prefix isSpace _
  have notSpace := List.head?_dropWhile_not isSpace text
  rcases front with ⟨rest, whole⟩
  rw [← whole, List.head?_append, begins] at notSpace
  exact Bool.eq_false_iff.mp notSpace

theorem getLast?_trim {text : Text} {last : Char} (ends : (trim text).getLast? = some last) :
    ¬ isSpace last := by
  have nonempty : trim text ≠ [] := by
    intro empty
    rw [empty] at ends
    cases ends
  have kept := List.rdropWhile_last_not isSpace (text.dropWhile isSpace) nonempty
  rw [List.getLast?_eq_some_getLast nonempty, Option.some.injEq] at ends
  rwa [← ends]

theorem trim_eq_self {text : Text} (first : ∀ character ∈ text.head?, ¬ isSpace character)
    (last : ∀ character ∈ text.getLast?, ¬ isSpace character) : trim text = text := by
  have kept : text.dropWhile isSpace = text := by
    cases text with
    | nil => rfl
    | cons character rest => exact List.dropWhile_cons_of_neg (first character rfl)
  rw [trim, kept]
  exact dropEndWhile_of_last last

/-- Texts without white space around them stay as they are when they are put together
around a visible character. -/
theorem trim_append_cons {left right : Text} {between : Char} (leftTrimmed : trim left = left)
    (rightTrimmed : trim right = right) (visible : ¬ isSpace between) :
    trim (left ++ between :: right) = left ++ between :: right := by
  apply trim_eq_self
  · intro first begins
    cases left with
    | nil =>
        cases begins
        exact visible
    | cons character rest =>
        have leftBegins : (trim (character :: rest)).head? = some first := by
          rw [leftTrimmed]
          exact begins
        exact head?_trim leftBegins
  · intro last ends
    cases right with
    | nil =>
        rw [List.getLast?_concat] at ends
        cases ends
        exact visible
    | cons character rest =>
        rw [List.getLast?_append_cons, List.getLast?_cons_cons] at ends
        have rightEnds : (trim (character :: rest)).getLast? = some last := by
          rw [rightTrimmed]
          exact ends
        exact getLast?_trim rightEnds

theorem trim_append_of_isBlank (text : Text) {tail : Text} (blank : isBlank tail) :
    trim (text ++ tail) = trim text := by
  rw [trim, trim, List.dropWhile_append]
  split
  · rename_i nothing
    rw [List.isEmpty_iff.mp nothing, List.dropWhile_eq_nil_iff.mpr (List.all_eq_true.mp blank)]
  · exact dropEndWhile_append (List.all_eq_true.mp blank) _

theorem isBlank_dropEndWhile {droppable : Char → Bool}
    (space : ∀ character, droppable character → isSpace character) (text : Text) :
    isBlank (dropEndWhile droppable text) = isBlank text := by
  have dropped : ∀ reversed : Text,
      (reversed.dropWhile droppable).all isSpace = reversed.all isSpace := by
    intro reversed
    induction reversed with
    | nil => rfl
    | cons character rest induction =>
        by_cases drop : droppable character
        · simp [drop, induction, space character drop]
        · simp [drop]
  rw [isBlank, dropEndWhile, List.all_reverse, dropped, List.all_reverse, isBlank]

@[simp] theorem isBlank_chomp (line : Text) : isBlank (chomp line) = isBlank line := by
  apply isBlank_dropEndWhile
  intro character ending
  rw [Bool.or_eq_true, beq_iff_eq, beq_iff_eq] at ending
  rcases ending with rfl | rfl <;> decide

/-! ## Lines -/

/-- Nothing in a line ends it, whichever line ends a reader knows. -/
def Unbroken (line : Text) : Prop := '\n' ∉ line ∧ '\r' ∉ line

instance (line : Text) : Decidable (Unbroken line) := by
  unfold Unbroken
  infer_instance

theorem Unbroken.of_cons {character : Char} {rest : Text}
    (unbroken : Unbroken (character :: rest)) :
    character ≠ '\n' ∧ character ≠ '\r' ∧ Unbroken rest := by
  simp only [Unbroken, List.mem_cons, not_or] at *
  exact ⟨Ne.symm unbroken.1.1, Ne.symm unbroken.2.1, unbroken.1.2, unbroken.2.2⟩

theorem unifyLineEnds_of_unbroken {line : Text} (unbroken : Unbroken line) :
    unifyLineEnds line = line := by
  induction line with
  | nil => rfl
  | cons character rest induction =>
      rcases unbroken.of_cons with ⟨_, other, later⟩
      rw [unifyLineEnds, if_neg other, induction later]
      intro _ equal
      exact absurd equal other

theorem breakLines_of_unbroken {line : Text} (unbroken : Unbroken line) :
    breakLines line = ([], line) := by
  induction line with
  | nil => rfl
  | cons character rest induction =>
      rcases unbroken.of_cons with ⟨other, _, later⟩
      simp only [breakLines, induction later, if_neg other]

/-- A line as it is read, with whatever ends it. -/
def Ended (line read : Text) : Prop :=
  ∃ lineEnd, (∀ character ∈ lineEnd, character = '\n' ∨ character = '\r') ∧ read = line ++ lineEnd

theorem ended_self (line : Text) : Ended line line :=
  ⟨[], fun _ member => absurd member List.not_mem_nil, (List.append_nil line).symm⟩

theorem ended_lineFeed (line : Text) : Ended line (line ++ ['\n']) :=
  ⟨['\n'], fun _ member => Or.inl (List.mem_singleton.mp member), rfl⟩

theorem Ended.chomp_eq {line read : Text} (ended : Ended line read) : chomp read = chomp line := by
  rcases ended with ⟨lineEnd, isEnd, rfl⟩
  refine dropEndWhile_append ?_ line
  intro character member
  rw [Bool.or_eq_true, beq_iff_eq, beq_iff_eq]
  exact isEnd character member

theorem Ended.trim_eq {line read : Text} (ended : Ended line read) : trim read = trim line := by
  rcases ended with ⟨lineEnd, isEnd, rfl⟩
  refine trim_append_of_isBlank line (List.all_eq_true.mpr ?_)
  intro character member
  rcases isEnd character member with rfl | rfl <;> decide

/-- Only the line end is dropped from a line whose last character belongs to no line end. -/
theorem chomp_of_ended_last {line read : Text}
    (last : ∀ character, line.getLast? = some character → character ≠ '\n' ∧ character ≠ '\r')
    (ended : Ended line read) : chomp read = line := by
  rw [ended.chomp_eq]
  apply dropEndWhile_of_last
  intro character found
  simp [last character found]

theorem chomp_of_ended {line read : Text} (unbroken : Unbroken line) (ended : Ended line read) :
    chomp read = line := by
  refine chomp_of_ended_last ?_ ended
  intro character last
  have member := List.mem_of_getLast? last
  exact ⟨fun lineFeed => unbroken.1 (lineFeed ▸ member),
    fun carriageReturn => unbroken.2 (carriageReturn ▸ member)⟩

/-- The end of a line as `chomp` sees it: every line feed and carriage return behind the
last other character. -/
def lineEnd (line : Text) : Text :=
  line.rtakeWhile fun character => character == '\n' || character == '\r'

theorem mem_lineEnd {line : Text} {character : Char} (member : character ∈ lineEnd line) :
    character = '\n' ∨ character = '\r' := by
  have ends := List.mem_rtakeWhile_imp member
  rw [Bool.or_eq_true, beq_iff_eq, beq_iff_eq] at ends
  exact ends

theorem chomp_append_lineEnd (line : Text) : chomp line ++ lineEnd line = line :=
  List.rdropWhile_append_rtakeWhile

theorem head?_chomp_eq_iff {line : Text} {character : Char} (lineFeed : character ≠ '\n')
    (carriageReturn : character ≠ '\r') :
    (chomp line).head? = some character ↔ line.head? = some character := by
  have parts := chomp_append_lineEnd line
  cases kept : chomp line with
  | nil =>
      rw [kept, List.nil_append] at parts
      constructor
      · intro begins
        cases begins
      · intro begins
        rw [← parts] at begins
        rcases mem_lineEnd (List.mem_of_head? begins) with equal | equal
        · exact absurd equal lineFeed
        · exact absurd equal carriageReturn
  | cons first rest =>
      rw [← parts, kept]
      rfl

theorem getLast?_chomp {line : Text} {character : Char}
    (last : (chomp line).getLast? = some character) : character ≠ '\n' ∧ character ≠ '\r' := by
  have nonempty : chomp line ≠ [] := by
    intro empty
    rw [empty] at last
    cases last
  have kept := List.rdropWhile_last_not _ line nonempty
  rw [List.getLast?_eq_some_getLast nonempty, Option.some.injEq] at last
  have kept : ¬ (character == '\n' || character == '\r') = true := last ▸ kept
  simpa using kept

/-! ## Texts that are read in parts -/

/-- A line that one part of a text leaves open is continued by the next part. -/
theorem breakLines_append (first second : Text) :
    breakLines (first ++ second) =
      ((breakLines first).1 ++ (breakLines ((breakLines first).2 ++ second)).1,
        (breakLines ((breakLines first).2 ++ second)).2) := by
  induction first with
  | nil => rfl
  | cons character rest induction =>
      rw [List.cons_append, breakLines, induction, breakLines]
      rcases breakLines rest with ⟨finished, unfinished⟩
      by_cases lineFeed : character = '\n'
      · simp [lineFeed]
      · cases finished with
        | nil => simp only [lineFeed, if_false, List.nil_append, List.cons_append, breakLines]
        | cons line others => simp [lineFeed]

/-- A carriage return and a line feed are one line end only next to each other. -/
theorem unifyLineEnds_append {first second : Text}
    (apart : first.getLast? = some '\r' → second.head? ≠ some '\n') :
    unifyLineEnds (first ++ second) = unifyLineEnds first ++ unifyLineEnds second := by
  induction first using unifyLineEnds.induct with
  | case1 => rfl
  | case2 rest induction =>
      have restApart : rest.getLast? = some '\r' → second.head? ≠ some '\n' := by
        intro last
        apply apart
        rw [List.getLast?_cons_cons, List.getLast?_cons, last]
        rfl
      simp only [List.cons_append, unifyLineEnds, induction restApart]
  | case3 character rest other induction =>
      have restApart : rest.getLast? = some '\r' → second.head? ≠ some '\n' := by
        intro last
        apply apart
        rw [List.getLast?_cons, last]
        rfl
      -- The two stay apart in the whole text, so that it is read as the parts are.
      have otherWhole : ∀ behind, character = '\r' → rest ++ second = '\n' :: behind → False := by
        intro behind equal begins
        cases rest with
        | nil =>
            rw [List.nil_append] at begins
            exact apart (by rw [equal]; rfl) (by rw [begins]; rfl)
        | cons next later =>
            injection begins with same _
            exact other later equal (by rw [same])
      rw [List.cons_append, unifyLineEnds, unifyLineEnds, induction restApart, List.cons_append]
      · exact other
      · exact otherWhole

/-! ## The lines of a text -/

/-- The ways in which the end of a line is written. -/
def lineEnds : List Text := [['\n'], ['\r'], ['\r', '\n']]

theorem ended_lineEnds {lineEnd : Text} (known : lineEnd ∈ lineEnds) (line : Text) :
    Ended line (line ++ lineEnd) := by
  refine ⟨lineEnd, ?_, rfl⟩
  simp only [lineEnds, List.mem_cons, List.not_mem_nil, or_false] at known
  rcases known with rfl | rfl | rfl <;> simp

theorem unifyLineEnds_ended {line lineEnd rest : Text} (unbroken : Unbroken line)
    (known : lineEnd ∈ lineEnds) (whole : lineEnd = ['\r'] → rest.head? ≠ some '\n') :
    unifyLineEnds (line ++ lineEnd ++ rest) = line ++ '\n' :: unifyLineEnds rest := by
  simp only [lineEnds, List.mem_cons, List.not_mem_nil, or_false] at known
  have oneEnd : unifyLineEnds lineEnd = ['\n'] := by
    rcases known with rfl | rfl | rfl <;> rfl
  have apart : lineEnd.getLast? = some '\r' → rest.head? ≠ some '\n' := by
    intro last
    apply whole
    rcases known with rfl | rfl | rfl
    · cases last
    · rfl
    · cases last
  rw [List.append_assoc, unifyLineEnds_append, unifyLineEnds_append apart, oneEnd,
    unifyLineEnds_of_unbroken unbroken, List.singleton_append]
  intro last
  exact absurd (List.mem_of_getLast? last) unbroken.2

/-- Lines whose ends are all written in one way, with an open line behind them. -/
theorem unifyLineEnds_flatMap {lines : List Text} {last lineEnd : Text}
    (unbroken : ∀ line ∈ lines, Unbroken line) (lastUnbroken : Unbroken last)
    (known : lineEnd ∈ lineEnds) :
    unifyLineEnds (lines.flatMap (fun line => line ++ lineEnd) ++ last) =
      lines.flatMap (fun line => line ++ ['\n']) ++ last := by
  induction lines with
  | nil => exact unifyLineEnds_of_unbroken lastUnbroken
  | cons line rest induction =>
      rw [List.forall_mem_cons] at unbroken
      have whole : lineEnd = ['\r'] →
          (rest.flatMap (fun line => line ++ lineEnd) ++ last).head? ≠ some '\n' := by
        rintro rfl begins
        cases rest with
        | nil => exact lastUnbroken.1 (List.mem_of_head? begins)
        | cons next later =>
            rw [List.flatMap_cons, List.append_assoc, List.append_assoc,
              List.head?_append] at begins
            cases next with
            | nil => cases begins
            | cons character others =>
                exact (unbroken.2 _ List.mem_cons_self).1 (List.mem_of_head? begins)
      rw [List.flatMap_cons, List.append_assoc, unifyLineEnds_ended unbroken.1 known whole,
        induction unbroken.2, List.flatMap_cons, List.append_assoc, List.append_assoc,
        List.singleton_append]

theorem breakLines_cons {line : Text} (absent : '\n' ∉ line) (rest : Text) :
    breakLines (line ++ '\n' :: rest) =
      ((line ++ ['\n']) :: (breakLines rest).1, (breakLines rest).2) := by
  induction line with
  | nil => simp [breakLines]
  | cons character others induction =>
      rw [List.mem_cons, not_or] at absent
      simp only [List.cons_append, breakLines, induction absent.2, if_neg (Ne.symm absent.1)]

theorem breakLines_flatMap {lines : List Text} (unbroken : ∀ line ∈ lines, Unbroken line) :
    breakLines (unifyLineEnds (lines.flatMap fun line => line ++ ['\n'])) =
      (lines.map fun line => line ++ ['\n'], []) := by
  induction lines with
  | nil => rfl
  | cons line rest induction =>
      rw [List.forall_mem_cons] at unbroken
      have lineFeed : ['\n'] ∈ lineEnds := by decide
      rw [List.flatMap_cons, unifyLineEnds_ended unbroken.1 lineFeed (by intro other; cases other),
        breakLines_cons unbroken.1.1, induction unbroken.2, List.map_cons]

theorem lines_cons {line : Text} (absent : '\n' ∉ line) (rest : Text) :
    lines (line ++ '\n' :: rest) = (line ++ ['\n']) :: lines rest := by
  rw [lines, breakLines_cons absent, lines]
  rcases breakLines rest with ⟨finished, _ | ⟨character, others⟩⟩ <;> rfl

theorem lines_flatMap {written : List Text} (absent : ∀ line ∈ written, '\n' ∉ line) :
    lines (written.flatMap fun line => line ++ ['\n']) =
      written.map fun line => line ++ ['\n'] := by
  induction written with
  | nil => rfl
  | cons line rest induction =>
      rw [List.forall_mem_cons] at absent
      rw [List.flatMap_cons, List.append_assoc, List.singleton_append, lines_cons absent.1,
        induction absent.2, List.map_cons]

/-- The lines of a text, which its line ends do not belong to. Only the last line may lack
an end, and then it is not empty. -/
inductive HasLines : List Text → Text → Prop
  | none : HasLines [] []
  | unended {line : Text} (unbroken : Unbroken line) (nonempty : line ≠ []) :
      HasLines [line] line
  | ended {line lineEnd rest : Text} {lines : List Text} (unbroken : Unbroken line)
      (known : lineEnd ∈ lineEnds)
      (whole : lineEnd = ['\r'] → rest.head? ≠ some '\n') (later : HasLines lines rest) :
      HasLines (line :: lines) (line ++ lineEnd ++ rest)

/-- A text is read by its lines, however their ends are written. -/
theorem HasLines.ended_lines {written : List Text} {text : Text}
    (hasLines : HasLines written text) :
    List.Forall₂ Ended written (lines (unifyLineEnds text)) := by
  induction hasLines with
  | none => exact .nil
  | @unended line unbroken nonempty =>
      rw [unifyLineEnds_of_unbroken unbroken, lines, breakLines_of_unbroken unbroken]
      cases line with
      | nil => exact absurd rfl nonempty
      | cons character rest => exact .cons (ended_self _) .nil
  | @ended line _ _ _ unbroken known whole _ induction =>
      rw [unifyLineEnds_ended unbroken known whole, lines_cons unbroken.1]
      exact .cons (ended_lineFeed line) induction

/-! ## Fields -/

theorem pieces_singleton (separator : Char) (text : Text) :
    pieces [separator] text = fields separator text := by
  rw [pieces]
  induction text with
  | nil => rfl
  | cons character rest induction =>
      by_cases equal : character = separator
      · simp [piecesFrom, fields, equal, induction]
      · simp [piecesFrom, fields, equal, Ne.symm equal, induction]

/-- The fields are those of the library's way to split a list. -/
theorem fields_eq_splitOn (separator : Char) (text : Text) :
    fields separator text = text.splitOn separator := by
  induction text with
  | nil => rfl
  | cons character rest induction =>
      rw [fields, induction, List.splitOn_cons_eq_if_modifyHead]
      cases split : rest.splitOn separator with
      | nil => exact absurd split (List.splitOn_ne_nil separator rest)
      | cons first others => simp only [beq_iff_eq, List.modifyHead_cons]

theorem fields_of_not_mem {separator : Char} {text : Text} (absent : separator ∉ text) :
    fields separator text = [text] := by
  rw [fields_eq_splitOn, List.splitOn_eq_singleton absent]

theorem fields_append {separator : Char} {last : Text} (absent : separator ∉ last)
    (text : Text) :
    fields separator (text ++ separator :: last) = fields separator text ++ [last] := by
  rw [fields_eq_splitOn, fields_eq_splitOn, List.splitOn_append_cons_self,
    List.splitOn_eq_singleton absent]

theorem fields_cons {separator : Char} {first : Text} (absent : separator ∉ first)
    (rest : Text) :
    fields separator (first ++ separator :: rest) = first :: fields separator rest := by
  rw [fields_eq_splitOn, fields_eq_splitOn, List.splitOn_append_cons_self_of_not_mem absent]

theorem fields_intercalate {separator : Char} {parts : List Text} (nonempty : parts ≠ [])
    (absent : ∀ part ∈ parts, separator ∉ part) :
    fields separator ([separator].intercalate parts) = parts := by
  rw [fields_eq_splitOn, List.splitOn_intercalate separator absent nonempty]

theorem not_mem_of_mem_fields {separator : Char} {text field : Text}
    (member : field ∈ fields separator text) : separator ∉ field := by
  induction text generalizing field with
  | nil =>
      rw [List.mem_singleton.mp member]
      exact List.not_mem_nil
  | cons character rest induction =>
      rw [fields] at member
      split at member
      · rcases List.mem_cons.mp member with rfl | later
        · exact List.not_mem_nil
        · exact induction later
      · rename_i different
        split at member
        · rename_i none
          exact absurd none (fields_ne_nil separator rest)
        · rename_i first others split
          rw [split] at induction
          rcases List.mem_cons.mp member with rfl | later
          · rw [List.mem_cons, not_or]
            exact ⟨Ne.symm different, induction List.mem_cons_self⟩
          · exact induction (List.mem_cons_of_mem first later)

/-- A text that consists of fields with a separator between them. -/
structure HasFields (separator : Char) (fields : List Text) (text : Text) : Prop where
  nonempty : fields ≠ []
  joined : text = [separator].intercalate fields
  absent : ∀ field ∈ fields, separator ∉ field

theorem fields_eq_iff {separator : Char} {text : Text} {parts : List Text} :
    fields separator text = parts ↔ HasFields separator parts text := by
  constructor
  · rintro rfl
    refine ⟨fields_ne_nil separator text, ?_, fun field => not_mem_of_mem_fields⟩
    rw [fields_eq_splitOn, List.intercalate_splitOn]
  · rintro ⟨nonempty, rfl, absent⟩
    exact fields_intercalate nonempty absent

theorem not_mem_intercalate {separator character : Char} {parts : List Text}
    (other : character ≠ separator) (absent : ∀ part ∈ parts, character ∉ part) :
    character ∉ [separator].intercalate parts := by
  induction parts with
  | nil => exact List.not_mem_nil
  | cons first rest induction =>
      rw [List.forall_mem_cons] at absent
      cases rest with
      | nil =>
          rw [List.intercalate_singleton]
          exact absent.1
      | cons second others =>
          intro member
          rw [List.intercalate_cons_cons, List.append_assoc, List.mem_append, List.mem_append,
            List.mem_singleton] at member
          rcases member with inFirst | same | inRest
          · exact absent.1 inFirst
          · exact other same
          · exact induction absent.2 inRest

theorem cut_append {separator : Char} {left : Text} (absent : separator ∉ left)
    (right : Text) : cut separator (left ++ separator :: right) = some (left, right) := by
  induction left with
  | nil => rw [List.nil_append, cut, if_pos rfl]
  | cons character rest induction =>
      rw [List.mem_cons, not_or] at absent
      rw [List.cons_append, cut, if_neg (Ne.symm absent.1), induction absent.2, Option.map_some]

theorem cut_of_not_mem {separator : Char} {text : Text} (absent : separator ∉ text) :
    cut separator text = none := by
  induction text with
  | nil => rfl
  | cons character rest induction =>
      rw [List.mem_cons, not_or] at absent
      rw [cut, if_neg (Ne.symm absent.1), induction absent.2, Option.map_none]

theorem not_mem_of_cut {separator : Char} {text : Text} (uncut : cut separator text = none) :
    separator ∉ text := by
  intro member
  rcases List.eq_append_cons_of_mem member with ⟨left, right, rfl, absent⟩
  rw [cut_append absent] at uncut
  cases uncut

theorem cut_eq_some_iff {separator : Char} {text left right : Text} :
    cut separator text = some (left, right) ↔
      text = left ++ separator :: right ∧ separator ∉ left := by
  constructor
  · exact eq_append_of_cut
  · rintro ⟨rfl, absent⟩
    exact cut_append absent right

end Standoff.Text
