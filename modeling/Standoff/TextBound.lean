import Standoff.Aligner
import Standoff.Document
import Standoff.FileTree
import Standoff.Notice
import Standoff.Path
import Standoff.Text.Digits

/-! Text-bound annotations: a text file and beside it a file of annotations that
name offsets in it.

A line of a text-bound annotation begins with the letter T and holds an
identifier, a type with offsets, and a copy of the annotated text, separated by
tabs. Several pairs of offsets make a discontinuous annotation. All other lines
belong to other kinds of annotations and are passed over. -/

namespace Standoff.TextBound

/-! ## Types -/

structure Category where
  type : Text
  subcategory : Option Text := none
  deriving DecidableEq, Repr

namespace Category

def isLetter (character : Char) : Bool :=
  ('a' ≤ character && character ≤ 'z') || ('A' ≤ character && character ≤ 'Z')

def isDigit (character : Char) : Bool := '0' ≤ character && character ≤ '9'

/-- A type has at least two characters and does not begin with a digit, a hyphen
or a dot. -/
def isType : Text → Bool
  | first :: second :: rest =>
      (isLetter first || first == '_') &&
        (second :: rest).all fun character =>
          isLetter character || isDigit character || character == '_' || character == '-' ||
            character == '.'
  | _ => false

def isSubcategory : Text → Bool
  | first :: second :: rest =>
      isLetter first && (second :: rest).all fun character =>
        isLetter character || isDigit character
  | _ => false

def parse? (written : Text) : Option Category :=
  match Text.cut ':' written with
  | none => if isType written then some ⟨written, none⟩ else none
  | some (type, subcategory) =>
      if isType type && isSubcategory subcategory then some ⟨type, some subcategory⟩ else none

def render (category : Category) : Text :=
  match category.subcategory with
  | none => category.type
  | some subcategory => category.type ++ ':' :: subcategory

def illegal (written : Text) : String :=
  "Illegal text annotation parameter format [" ++ String.ofList written ++ "]"

example : parse? "LOC:city".toList = some ⟨"LOC".toList, some "city".toList⟩ ∧
    parse? "LOC:".toList = none ∧ parse? "X".toList = none := by decide

end Category

/-! ## Offsets -/

def range? (written : Text) : Option (Nat × Nat) :=
  match Text.fields ' ' written with
  | [start, stop] =>
      match Text.number? start, Text.number? stop with
      | some start, some stop => some (start, stop)
      | _, _ => none
  | _ => none

/-- The written pairs of offsets, which have semicolons between them. One line
feed may be left over at the end. -/
def pairs (written : Text) : List Text :=
  Text.fields ';' (if written.getLast? = some '\n' then written.dropLast else written)

def ranges? (written : Text) : Option (List (Nat × Nat)) := (pairs written).mapM range?

example : ranges? "10 14;20 26".toList = some [(10, 14), (20, 26)] ∧
    ranges? "10  14".toList = none ∧ ranges? [] = none := by decide

structure LengthError where
  limit : Nat
  digits : Nat
  deriving DecidableEq, Repr

def LengthError.message (error : LengthError) : String :=
  "Exceeds the limit (" ++ toString error.limit ++
    " digits) for integer string conversion: value has " ++ toString error.digits ++
    " digits; use sys.set_int_max_str_digits() to increase the limit"

/-- The most digits, zeros in front included, with which a number may be written
unless another limit is set, or none. -/
def digitLimit : Nat := 4300

def overlong? (limit : Option Nat) (written : Text) : Option LengthError :=
  match limit with
  | none => none
  | some limit =>
      (((pairs written).flatMap (Text.fields ' ')).find? (limit < ·.length)).map
        fun number => ⟨limit, number.length⟩

example : overlong? (some 3) "10 14;0020 26\n".toList = some ⟨3, 4⟩ ∧
    overlong? (some 4) "10 14;0020 26\n".toList = none := by decide

/-! ## Annotations -/

inductive FormatError where
  | entry (number : Nat) (source line : Text)
  | offsets (number : Nat) (source written : Text)
  | category (number : Nat) (source written : Text)
  | span (number : Nat) (source : Text) (error : SpanError)
  deriving DecidableEq, Repr

private def place (number : Nat) (source : Text) : String :=
  toString number ++ " of " ++ String.ofList source

def FormatError.message : FormatError → String
  | .entry number source line =>
      "Invalid text annotation on line " ++ place number source ++ ": [" ++
        String.ofList line ++ "]"
  | .offsets number source written =>
      "Invalid offsets on line " ++ place number source ++ ": [" ++
        String.ofList written ++ "]"
  | .category number source written =>
      "Line " ++ place number source ++ ": " ++ Category.illegal written
  | .span number source error => "Line " ++ place number source ++ ": " ++ error.message

inductive Error where
  | format (error : FormatError)
  | length (error : LengthError)
  | alignment (error : AlignmentError)
  | fault (fault : ReadFault)
  | file (error : FileTree.OpenError)

structure Entry where
  id : Text
  category : Category
  ranges : List (Nat × Nat)
  deriving DecidableEq, Repr

namespace Entry

def metadata (entry : Entry) : Value :=
  .record [("id".toList, .text entry.id),
    ("subcat".toList, .ofOptionalText entry.category.subcategory)]

def covered (text : Text) (entry : Entry) : Text :=
  [' '].intercalate (entry.ranges.map fun range => (text.take range.2).drop range.1)

/-- The span of an annotation: an entity, or a group when it has several parts. -/
def span? (text : Text) (entry : Entry) : Except SpanError Span :=
  match entry.ranges with
  | [(start, stop)] =>
      Span.entity? text start stop entry.category.type
        ⟨EntityDetails.single, false, none⟩ entry.metadata
  | ranges => do
      let members ← ranges.mapM fun range => Span.make? text range.1 range.2
      match Span.group? members entry.category.type entry.metadata with
      | some group => .ok group
      | none => .error ⟨0, 0, text.length⟩

def render (text : Text) (entry : Entry) : Text :=
  entry.id ++ '\t' :: entry.category.render ++ ' ' ::
    [';'].intercalate (entry.ranges.map fun range =>
      (toString range.1).toList ++ ' ' :: (toString range.2).toList) ++
    '\t' :: entry.covered text

end Entry

/-- The annotation of a line and the copy of the annotated text, if the line
holds a text-bound annotation. -/
def readLine (limit : Option Nat) (source : Text) (number : Nat) (written : Text) :
    Except Error (Option (Entry × Text)) :=
  let line := Text.chomp written
  if line.head? ≠ some 'T' then .ok none
  else
    match Text.fields '\t' line with
    | [id, information, copy] =>
        match Text.cut ' ' information with
        | none => .error (.format (.entry number source line))
        | some (category, offsets) =>
            match ranges? offsets, Category.parse? category with
            | none, _ => .error (.format (.offsets number source offsets))
            | some _, none => .error (.format (.category number source category))
            | some ranges, some category =>
                match overlong? limit offsets with
                | some error => .error (.length error)
                | none => .ok (some (⟨id, category, ranges⟩, copy))
    | _ => .error (.format (.entry number source line))

/-- The span of a line. The copy has to be what the offsets cover. -/
def readSpan (limit : Option Nat) (text source : Text) (number : Nat) (written : Text) :
    Except Error (Option Span) :=
  match readLine limit source number written with
  | .error error => .error error
  | .ok none => .ok none
  | .ok (some (entry, copy)) =>
      match entry.span? text with
      | .error error => .error (.format (.span number source error))
      | .ok span =>
          if entry.covered text = copy then .ok (some span)
          else
            let start : Nat := ((entry.ranges.head?).map (·.1)).getD 0
            .error (.alignment (.of copy start text))

def readSpansFrom (limit : Option Nat) (text source : Text) (number : Nat) :
    List Text → Except Error (List Span)
  | [] => .ok []
  | written :: rest =>
      match readSpan limit text source number written with
      | .error error => .error error
      | .ok span =>
          (readSpansFrom limit text source (number + 1) rest).map (span.toList ++ ·)

def noSource : Text := "<string>".toList

def readSpans (text : Text) (lines : List Text) (source : Text := noSource)
    (limit : Option Nat := some digitLimit) : Except Error (List Span × Notice) :=
  (readSpansFrom limit text source 1 lines).map fun spans =>
    (spans, .annotationsRead source spans.length)

def besidePath (path : Text) : Text := Path.stem path ++ ".ann".toList

def load (tree : FileTree) (encoding : Text) (language : Option Text)
    (path annotationsPath : Text) : Except Error (Document × Notice) := do
  let text ← (tree.wholeText path encoding).mapError .file
  let (lines, fault) ← (tree.lines annotationsPath encoding).mapError .file
  let (spans, notice) ← readSpans text lines annotationsPath
  match fault with
  | some fault => .error (.fault fault)
  | none => .ok ({ text, language, tiers := [("nes", Tier.sort spans)] }, notice)

end Standoff.TextBound
