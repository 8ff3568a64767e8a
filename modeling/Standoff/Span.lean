import Standoff.Text.Search
import Standoff.Value

/-! Spans: stretches of a document's text with an annotation.

A span holds offsets, not text. The text it covers is looked up in the document
it was made for, and `Span.Within` says that the offsets fit that document. -/

namespace Standoff

/-! ## The kinds of spans -/

structure EntityDetails where
  /-- How the entity was put together: `EntityDetails.single` or
  `EntityDetails.complex` for entities read from a tag column. -/
  source : Text
  implicitBegin : Bool := false
  /-- The indices of the entity's tokens in their sentence, the second one past
  the last token. -/
  tokenRange : Option (Int × Int) := none
  deriving DecidableEq, Repr

def EntityDetails.single : Text := "single".toList

def EntityDetails.complex : Text := "complex".toList

inductive Role (σ : Type) where
  | plain
  | token
  | partOfSpeech (token : σ) (coarse : Option Text)
  | sentence
  | entity (details : EntityDetails)
  | group (members : List σ)
  deriving Repr

structure Span where
  start : Nat
  stop : Nat
  label : Option Text := none
  metadata : Option Value := none
  role : Role Span := .plain
  deriving Repr

/-! ## Making spans -/

structure SpanError where
  start : Int
  stop : Int
  length : Nat
  deriving DecidableEq, Repr

def SpanError.message (error : SpanError) : String :=
  "Invalid span offsets " ++ toString error.start ++ "-" ++ toString error.stop ++
    " for a document of length " ++ toString error.length

example : (⟨-1, 3, 13⟩ : SpanError).message =
    "Invalid span offsets -1-3 for a document of length 13" := by decide +kernel

namespace Span

def Within (text : Text) (span : Span) : Prop :=
  span.start ≤ span.stop ∧ span.stop ≤ text.length

instance (text : Text) (span : Span) : Decidable (Within text span) := by
  unfold Within
  infer_instance

def covered (text : Text) (span : Span) : Text :=
  (text.drop span.start).take (span.stop - span.start)

def length (span : Span) : Nat := span.stop - span.start

/-- Make a span from any two numbers, unless they do not fit the text. -/
def make? (text : Text) (start stop : Int) (label : Option Text := none)
    (role : Role Span := .plain) (metadata : Option Value := none) :
    Except SpanError Span :=
  if 0 ≤ start ∧ start ≤ stop ∧ stop ≤ text.length then
    .ok { start := start.toNat, stop := stop.toNat, label, metadata, role }
  else
    .error ⟨start, stop, text.length⟩

theorem within_of_make? {text : Text} {start stop : Int} {label : Option Text}
    {role : Role Span} {metadata : Option Value} {span : Span}
    (made : make? text start stop label role metadata = .ok span) :
    span.Within text ∧ (span.start : Int) = start ∧ (span.stop : Int) = stop := by
  unfold make? at made
  split at made
  · obtain rfl := Except.ok.inj made
    simp only [Within]
    omega
  · cases made

/-- A token is labelled with the form that it has in the text. -/
def token? (text : Text) (start stop : Int) : Except SpanError Span :=
  (make? text start stop none .token).map fun span =>
    { span with label := some (span.covered text) }

def sentence? (text : Text) (start stop : Int) (label : Option Text := none) :
    Except SpanError Span :=
  make? text start stop label .sentence

def entity? (text : Text) (start stop : Int) (label : Option Text)
    (details : EntityDetails) (metadata : Option Value := none) :
    Except SpanError Span :=
  make? text start stop label (.entity details) metadata

def partOfSpeech (token : Span) (tag : Option Text) (coarse : Option Text) : Span where
  start := token.start
  stop := token.stop
  label := tag
  role := .partOfSpeech token coarse

/-- The sentence from the first of its tokens to the last. There is none
without tokens. -/
def sentenceOf? (text : Text) (tokens : List Span) (label : Option Text := none) :
    Option (Except SpanError Span) :=
  match tokens.head?, tokens.getLast? with
  | some first, some last => some (sentence? text first.start last.stop label)
  | _, _ => none

/-- One annotation for several spans, from the least start to the greatest
end. There is none without members. -/
def group? (members : List Span) (label : Option Text := none)
    (metadata : Option Value := none) : Option Span :=
  match members with
  | [] => none
  | first :: others => some {
      start := others.foldl (fun least span => min least span.start) first.start
      stop := others.foldl (fun greatest span => max greatest span.stop) first.stop
      label
      metadata
      role := .group members }

/-! ## Order and containment -/

/-- Earlier starts come first, and of equal starts the earlier end. -/
def before (span other : Span) : Bool :=
  span.start < other.start || (span.start == other.start && span.stop < other.stop)

def contains (span other : Span) : Bool :=
  span.start ≤ other.start && other.stop ≤ span.stop

def notAfter (span other : Span) : Bool := !other.before span

theorem notAfter_iff {span other : Span} :
    span.notAfter other ↔
      span.start < other.start ∨ (span.start = other.start ∧ span.stop ≤ other.stop) := by
  simp only [notAfter, before, Bool.not_eq_true', Bool.or_eq_false_iff, Bool.and_eq_false_iff,
    decide_eq_false_iff_not, beq_eq_false_iff_ne]
  omega

/-! ## Showing spans -/

private def caption (text : Text) (span : Span) : Text :=
  match span.label with
  | none | some [] => span.covered text
  | some label => label

private def offsets (span : Span) : Text :=
  (toString span.start).toList ++ '-' :: (toString span.stop).toList

private def labelText (span : Span) : Text := span.label.getD "None".toList

def describe (text : Text) : Span → Text
  | ⟨start, stop, label, metadata, role⟩ =>
      let span : Span := ⟨start, stop, label, metadata, .plain⟩
      match role with
      | .group members =>
          "SpanGroup(text=".toList ++ span.covered text ++ ", label=".toList ++
            span.labelText ++ ", ".toList ++
            ", ".toList.intercalate (members.map (describe text)) ++ [')']
      | .entity _ =>
          "EntitySpan(".toList ++ span.offsets ++ ", ".toList ++ span.labelText ++
            ", ".toList ++ span.covered text ++ [')']
      | .plain | .token | .partOfSpeech .. | .sentence =>
          "AnnoSpan(".toList ++ span.offsets ++ ", ".toList ++ span.caption text ++ [')']

/-! ## Export -/

private def offsetPair (span : Span) : Value :=
  .list [.integer span.start, .integer span.stop]

def toValue (span : Span) : Value :=
  let offsetPairs :=
    match span.role with
    | .group members => members.map offsetPair
    | _ => [span.offsetPair]
  let details :=
    match span.role with
    | .partOfSpeech _ coarse => [("coarse".toList, Value.ofOptionalText coarse)]
    | .entity details => [("source".toList, .text details.source)]
    | _ => []
  .record ([("label".toList, .ofOptionalText span.label),
    ("textOffsets".toList, .list offsetPairs)] ++ details)

end Span

end Standoff
