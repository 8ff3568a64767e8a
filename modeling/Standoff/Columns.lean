import Standoff.Document
import Standoff.FileTree
import Standoff.Notice

/-! Column files: corpora with one token to a line.

A line holds the form of a token and, in further columns, tags for the entities
it belongs to: one column for entities, or two when entities can lie inside
others. A blank line ends a sentence. The text of the corpus is not stored; it
is made up from the forms. -/

namespace Standoff.Columns

/-! ## Options -/

inductive Separator where
  | space
  | tab
  deriving DecidableEq, Repr

def Separator.character : Separator → Char
  | .space => ' '
  | .tab => '\t'

def Separator.name : Separator → String
  | .space => "space"
  | .tab => "tab"

inductive CommentMode where
  | token
  | skip
  | error
  deriving DecidableEq, Repr

structure Options where
  separator : Separator := .space
  comments : CommentMode := .token
  language : Option Text := none
  entities : Bool := true
  /-- Whether there is a second tag column, and entities are read from it. -/
  embedded : Bool := false
  deriving DecidableEq, Repr

inductive OptionError where
  | separator
  | comments
  deriving DecidableEq, Repr

def OptionError.message : OptionError → String
  | .separator => "column_separator must be one of: space, tab"
  | .comments => "comment_lines must be one of: token, skip, error"

def Separator.ofName? (name : Text) : Option Separator :=
  if name = "space".toList then some .space
  else if name = "tab".toList then some .tab
  else none

def CommentMode.ofName? (name : Text) : Option CommentMode :=
  if name = "token".toList then some .token
  else if name = "skip".toList then some .skip
  else if name = "error".toList then some .error
  else none

def Options.named (separator comments : Text) (options : Options) :
    Except OptionError Options :=
  match Separator.ofName? separator, CommentMode.ofName? comments with
  | none, _ => .error .separator
  | some _, none => .error .comments
  | some separator, some comments => .ok { options with separator, comments }

namespace Options

def fieldCount (options : Options) : Nat := if options.embedded then 3 else 2

end Options

/-! ## Lines -/

structure Word where
  form : Text
  tag : Text
  embedded : Option Text := none
  deriving DecidableEq, Repr

def Word.fields (word : Word) : List Text := word.form :: word.tag :: word.embedded.toList

inductive Line where
  | blank
  | skipped
  | word (word : Word)
  deriving DecidableEq, Repr

inductive FormatError where
  | comment (number : Nat) (source line : Text)
  | fields (number : Nat) (source : Text) (required : Nat) (separator : Separator)
      (line : Text)
  deriving DecidableEq, Repr

def FormatError.message : FormatError → String
  | .comment number source line =>
      "Unexpected comment line " ++ toString number ++ " in " ++ String.ofList source ++
        ": [" ++ String.ofList line ++ "]"
  | .fields number source required separator line =>
      "Invalid file format. Line " ++ toString number ++ " of " ++ String.ofList source ++
        " needs to have " ++ toString required ++ " " ++ separator.name ++
        "-separated fields: [" ++ String.ofList line ++ "]"

/-- The fields of a line. Separators at its end do not begin another field. -/
def fieldsOf (separator : Separator) (line : Text) : List Text :=
  ((Text.fields separator.character line).reverse.dropWhile (· = [])).reverse

example : fieldsOf .space "Wolff B-PER  ".toList = ["Wolff".toList, "B-PER".toList] := by
  decide

/-- The word that fields make, if there are as many as required. -/
def Word.ofFields? (options : Options) (fields : List Text) : Option Word :=
  match options.embedded, fields with
  | false, [form, tag] => some { form, tag }
  | true, [form, tag, embedded] => some { form, tag, embedded := some embedded }
  | _, _ => none

def readLine (options : Options) (source : Text) (number : Nat) (written : Text) :
    Except FormatError Line :=
  let line := Text.chomp written
  if Text.isBlank line then .ok .blank
  else if line.head? = some '#' ∧ options.comments = .skip then .ok .skipped
  else if line.head? = some '#' ∧ options.comments = .error then
    .error (.comment number source line)
  else
    match Word.ofFields? options (fieldsOf options.separator line) with
    | some word => .ok (.word word)
    | none => .error (.fields number source options.fieldCount options.separator line)

def readLinesFrom (options : Options) (source : Text) (number : Nat) :
    List Text → Except FormatError (List Line)
  | [] => .ok []
  | written :: rest =>
      match readLine options source number written with
      | .error error => .error error
      | .ok line => (readLinesFrom options source (number + 1) rest).map (line :: ·)

/-! ## Sentences -/

abbrev Sentence := List Word

/-- The words of the lines up to the first blank one, and the sentences after
it. -/
def splitSentences : List Line → Sentence × List Sentence
  | [] => ([], [])
  | .word word :: rest =>
      let (words, later) := splitSentences rest
      (word :: words, later)
  | .skipped :: rest => splitSentences rest
  | .blank :: rest =>
      let (words, later) := splitSentences rest
      ([], if words = [] then later else words :: later)

def sentencesOf (lines : List Line) : List Sentence :=
  let (words, later) := splitSentences lines
  if words = [] then later else words :: later

def readSentences (options : Options) (source : Text) (lines : List Text) :
    Except FormatError (List Sentence) :=
  (readLinesFrom options source 1 lines).map sentencesOf

/-! ## Layout

Each form is followed by a space and each sentence by a line feed. -/

def sentenceText (sentence : Sentence) : Text :=
  sentence.flatMap (fun word => word.form ++ [' ']) ++ ['\n']

def corpusText (sentences : List Sentence) : Text := sentences.flatMap sentenceText

/-- The tokens of words that are laid out from an offset on. -/
def layTokens (text : Text) (offset : Nat) : Sentence → Except SpanError (List Span)
  | [] => .ok []
  | word :: rest =>
      let stop := offset + word.form.length
      match Span.token? text offset stop with
      | .error error => .error error
      | .ok token => (layTokens text (stop + 1) rest).map (token :: ·)

/-! ## Documents -/

inductive Error where
  | format (error : FormatError)
  | fault (fault : ReadFault)
  | file (error : FileTree.OpenError)
  | span (error : SpanError)
  | entity (error : Segment.EntityError)
  | emptySentence

/-- The entities of one column of a sentence. A cell that holds no tag costs the
sentence all entities of that column, and nothing else. -/
def columnEntities (text source : Text) (index : Nat) (tokens : List Span)
    (cells : List (Option Text)) : Except Error (List Span × List Notice) :=
  match Segment.entities text tokens cells with
  | .ok entities => .ok (entities, [])
  | .error (.tag error) => .ok ([], [.entitiesSkipped source index error])
  | .error error => .error (.entity error)

structure Annotated where
  tokens : List Span
  sentence : Span
  entities : List Span
  embedded : List Span
  notices : List Notice

def annotateSentence (options : Options) (text source : Text) (index offset : Nat)
    (sentence : Sentence) : Except Error Annotated := do
  let tokens ← (layTokens text offset sentence).mapError .span
  let span ←
    match Span.sentenceOf? text tokens with
    | none => .error .emptySentence
    | some made => made.mapError .span
  let (entities, skipped) ←
    if options.entities then
      columnEntities text source index tokens (sentence.map fun word => some word.tag)
    else .ok ([], [])
  let (embedded, skippedEmbedded) ←
    if options.embedded then
      columnEntities text source index tokens (sentence.map (·.embedded))
    else .ok ([], [])
  return { tokens, sentence := span, entities, embedded, notices := skipped ++ skippedEmbedded }

def annotateFrom (options : Options) (text source : Text) (index offset : Nat) :
    List Sentence → Except Error (List Annotated)
  | [] => .ok []
  | sentence :: rest => do
      let annotated ← annotateSentence options text source index offset sentence
      let later ← annotateFrom options text source (index + 1)
        (offset + (sentenceText sentence).length) rest
      return annotated :: later

def documentOf (options : Options) (source : Text) (sentences : List Sentence) :
    Except Error (Document × List Notice) := do
  let text := corpusText sentences
  let annotated ← annotateFrom options text source 0 0 sentences
  let tokens := annotated.flatMap (·.tokens)
  let tiers : Tiers :=
    [("tokens", tokens), ("sentences", annotated.map (·.sentence))] ++
    (if options.entities then [("nes", annotated.flatMap (·.entities))] else []) ++
    (if options.embedded then [("nes.embedded", annotated.flatMap (·.embedded))] else [])
  return ({ text, language := options.language, tiers },
    annotated.flatMap (·.notices) ++ [.corpusRead source annotated.length tokens.length])

def noSource : Text := "<string>".toList

def readLines (options : Options) (lines : List Text) (source : Text := noSource) :
    Except Error (Document × List Notice) :=
  match readSentences options source lines with
  | .error error => .error (.format error)
  | .ok sentences => documentOf options source sentences

def readText (options : Options) (text : Text) : Except Error (Document × List Notice) :=
  readLines options (Text.lines text)

/-- Read the document that a file describes. A line that is out of format comes
out before a fault that is met later in the file. -/
def load (options : Options) (tree : FileTree) (encoding path : Text) :
    Except Error (Document × List Notice) :=
  match tree.lines path encoding with
  | .error error => .error (.file error)
  | .ok (lines, fault) =>
      match readSentences options path lines, fault with
      | .error error, _ => .error (.format error)
      | .ok _, some fault => .error (.fault fault)
      | .ok sentences, none => documentOf options path sentences

def loadAll (options : Options) (tree : FileTree) (encoding : Text) :
    List Text → List (Except Error (Document × List Notice))
  | [] => []
  | path :: rest =>
      match load options tree encoding path with
      | .error error => [.error error]
      | .ok loaded => .ok loaded :: loadAll options tree encoding rest

example :
    (readSentences {} noSource ["Del B-PER\n".toList, "Bosque I-PER\n".toList, " \n".toList,
      ". O".toList]) =
    .ok [[⟨"Del".toList, "B-PER".toList, none⟩, ⟨"Bosque".toList, "I-PER".toList, none⟩],
      [⟨['.'], ['O'], none⟩]] := by rfl

end Standoff.Columns
