import Standoff.Text.Basic

/-! Lines: where they end, how their ends are written, and the place of a
character in a text of several lines. -/

namespace Standoff.Text

/-! ## Lines that end in a line feed -/

/-- The finished lines of a text, each with its line feed, and the rest that no
line feed ends. -/
def breakLines : Text → List Text × Text
  | [] => ([], [])
  | character :: rest =>
      match breakLines rest with
      | (finished, unfinished) =>
          if character = '\n' then
            (['\n'] :: finished, unfinished)
          else
            match finished with
            | [] => ([], character :: unfinished)
            | first :: others => ((character :: first) :: others, unfinished)

def lines (text : Text) : List Text :=
  match breakLines text with
  | (finished, []) => finished
  | (finished, unfinished) => finished ++ [unfinished]

example : lines "one\n\ntwo".toList =
    ["one\n".toList, "\n".toList, "two".toList] := by decide

def chomp (line : Text) : Text :=
  dropEndWhile (fun character => character == '\n' || character == '\r') line

example : chomp "Wolff B-PER \r\n".toList = "Wolff B-PER ".toList := by decide

/-! ## Other line ends -/

/-- Write every line end as one line feed, whether it was a line feed, a
carriage return or a carriage return before a line feed. -/
def unifyLineEnds : Text → Text
  | [] => []
  | '\r' :: '\n' :: rest => '\n' :: unifyLineEnds rest
  | character :: rest =>
      (if character = '\r' then '\n' else character) :: unifyLineEnds rest

example : unifyLineEnds "a\r\nb\rc\n\r".toList = "a\nb\nc\n\n".toList := by decide

/-! ## Places -/

/-- The characters after which a reader of the text sees a new line: beside
line feed and carriage return the vertical tab, the form feed, the file, group
and record separators, next line, and the line and paragraph separators. -/
def isLineBreak (character : Char) : Bool :=
  let code := character.toNat
  (0x0A ≤ code && code ≤ 0x0D) || (0x1C ≤ code && code ≤ 0x1E) ||
    code == 0x85 || code == 0x2028 || code == 0x2029

structure Place where
  line : Nat
  column : Nat
  deriving DecidableEq, Repr

/-- The place reached after reading a text that begins at `place`. A carriage
return and the line feed after it break the line once. -/
def Place.after (place : Place) : Text → Place
  | [] => place
  | '\r' :: '\n' :: rest => Place.after ⟨place.line + 1, 0⟩ rest
  | character :: rest =>
      if isLineBreak character then
        Place.after ⟨place.line + 1, 0⟩ rest
      else
        Place.after ⟨place.line, place.column + 1⟩ rest

def lastPlace (text : Text) : Place := Place.after ⟨1, 0⟩ text

example : lastPlace "m $".toList = ⟨1, 3⟩ := by decide

example : lastPlace "\r\na$".toList = ⟨2, 2⟩ := by decide

end Standoff.Text
