import Standoff.Text.Printable

/-! Quoted texts, as messages show them.

A quoted text shows every character of the text on one line: marks as they are,
all others by their code. -/

namespace Standoff.Text

def hexadecimal (width number : Nat) : Text :=
  let digits := Nat.toDigits 16 number
  List.replicate (width - digits.length) '0' ++ digits

/-- A character by its code, with as many digits as its code needs: two, four
or eight. -/
def escapeCode (character : Char) : Text :=
  let code := character.toNat
  if code < 0x100 then '\\' :: 'x' :: hexadecimal 2 code
  else if code < 0x10000 then '\\' :: 'u' :: hexadecimal 4 code
  else '\\' :: 'U' :: hexadecimal 8 code

def escapeWithin (quote character : Char) : Text :=
  if character = quote || character = '\\' then ['\\', character]
  else if character = '\t' then ['\\', 't']
  else if character = '\n' then ['\\', 'n']
  else if character = '\r' then ['\\', 'r']
  else if isPrintable character then [character]
  else escapeCode character

/-- The quote that needs no escape in the text where that can be had: the
apostrophe unless the text holds one and no double quote. -/
def quoteFor (text : Text) : Char :=
  if '\'' ∈ text && '"' ∉ text then '"' else '\''

def quoted (text : Text) : Text :=
  let quote := quoteFor text
  quote :: text.flatMap (escapeWithin quote) ++ [quote]

def quotedList (texts : List Text) : Text :=
  '[' :: [',', ' '].intercalate (texts.map quoted) ++ [']']

example : quotedList ["nes".toList, "it's\n".toList] =
    "['nes', \"it's\\n\"]".toList := by decide +kernel

end Standoff.Text
