/-! Text and the elementary ways to take it apart.

A text is a list of characters, so that every offset and every length in this
library counts characters. -/

namespace Standoff

abbrev Text := List Char

namespace Text

/-! ## White space -/

/-- The characters that separate words without being seen: the ASCII controls
from tab to carriage return and from file to unit separator, next line, and the
space separators, line separator and paragraph separator. A zero-width space
and a byte order mark are visible in this sense. -/
def isSpace (character : Char) : Bool :=
  let code := character.toNat
  (0x09 ≤ code && code ≤ 0x0D) || (0x1C ≤ code && code ≤ 0x20) ||
    code == 0x85 || code == 0xA0 || code == 0x1680 ||
    (0x2000 ≤ code && code ≤ 0x200A) || code == 0x2028 || code == 0x2029 ||
    code == 0x202F || code == 0x205F || code == 0x3000

example : isSpace '\x1C' ∧ isSpace '\u2028' ∧ ¬ isSpace '\u200B' := by decide

def isBlank (text : Text) : Bool := text.all isSpace

def dropEndWhile (droppable : Char → Bool) (text : Text) : Text :=
  (text.reverse.dropWhile droppable).reverse

def trim (text : Text) : Text :=
  dropEndWhile isSpace (text.dropWhile isSpace)

example : trim " \tfirst second\n".toList = "first second".toList := by decide

theorem dropEndWhile_concat_of_neg {droppable : Char → Bool} {character : Char}
    (refused : ¬ droppable character) (text : Text) :
    dropEndWhile droppable (text ++ [character]) = text ++ [character] := by
  simp [dropEndWhile, refused]

/-! ## Fields

Splitting at a separator always gives one field more than there are separators,
so the empty text has one empty field. -/

def fields (separator : Char) : Text → List Text
  | [] => [[]]
  | character :: rest =>
      if character = separator then
        [] :: fields separator rest
      else
        match fields separator rest with
        | [] => [[character]]
        | first :: others => (character :: first) :: others

example : fields '\t' "T1\tPER 0 5\t".toList =
    ["T1".toList, "PER 0 5".toList, []] := by decide

theorem fields_ne_nil (separator : Char) (text : Text) : fields separator text ≠ [] := by
  cases text with
  | nil => simp [fields]
  | cons character rest =>
      simp only [fields]
      split
      · simp
      · split <;> simp

/-- The words of a text: the longest pieces without white space. -/
def words (text : Text) : List Text :=
  (fields ' ' (text.map fun character => if isSpace character then ' ' else character)).filter
    (· ≠ [])

example : words " Hi\t\tUH \n".toList = ["Hi".toList, "UH".toList] := by decide

def cut (separator : Char) : Text → Option (Text × Text)
  | [] => none
  | character :: rest =>
      if character = separator then
        some ([], rest)
      else
        (cut separator rest).map fun sides => (character :: sides.1, sides.2)

example : cut '=' "$==D".toList = some ("$".toList, "=D".toList) := by decide

theorem eq_append_of_cut {separator : Char} {text left right : Text}
    (equal : cut separator text = some (left, right)) :
    text = left ++ separator :: right ∧ separator ∉ left := by
  induction text generalizing left with
  | nil => simp [cut] at equal
  | cons character rest induction =>
      simp only [cut] at equal
      split at equal
      · simp only [Option.some.injEq, Prod.mk.injEq] at equal
        obtain ⟨rfl, rfl⟩ := equal
        simp_all
      · obtain ⟨⟨first, second⟩, found, sides⟩ := Option.map_eq_some_iff.mp equal
        simp only [Prod.mk.injEq] at sides
        obtain ⟨rfl, rfl⟩ := sides
        obtain ⟨rfl, absent⟩ := induction found
        refine ⟨by simp, ?_⟩
        intro member
        rcases List.mem_cons.mp member with same | member
        · simp_all
        · exact absent member

/-- The pieces of a text between the occurrences of a separating text, found
from left to right without overlaps. `passing` counts the characters of an
occurrence that are still to be passed over. -/
def piecesFrom (separator : Text) : (passing : Nat) → Text → List Text
  | _, [] => [[]]
  | passing + 1, _ :: rest => piecesFrom separator passing rest
  | 0, character :: rest =>
      if separator.isPrefixOf (character :: rest) then
        [] :: piecesFrom separator (separator.length - 1) rest
      else
        match piecesFrom separator 0 rest with
        | [] => [[character]]
        | first :: others => (character :: first) :: others

def pieces (separator : Text) (text : Text) : List Text :=
  piecesFrom separator 0 text

example : pieces "::".toList "a:::b".toList = ["a".toList, ":b".toList] := by decide

end Text

end Standoff
