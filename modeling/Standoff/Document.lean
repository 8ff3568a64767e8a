import Standoff.Dictionary
import Standoff.Tier

/-! Documents: a text that never changes and the tiers of annotation over it. -/

namespace Standoff

abbrev Tiers := Dictionary String Tier

/-! ## Documents -/

structure Timestamp where
  year : Nat
  month : Nat
  day : Nat
  hour : Nat := 0
  minute : Nat := 0
  second : Nat := 0
  microsecond : Nat := 0
  deriving DecidableEq, Repr

/-- The first part of a timestamp that is out of its range. -/
inductive TimestampError where
  | overflow
  | year (given : Int)
  | month
  | day
  | hour
  | minute
  | second
  | microsecond
  | partCount
  deriving DecidableEq, Repr

def TimestampError.message : TimestampError → String
  | .overflow => "a part of the timestamp does not fit into 32 bits"
  | .year given => "year " ++ toString given ++ " is out of range"
  | .month => "month must be in 1..12"
  | .day => "day is out of range for month"
  | .hour => "hour must be in 0..23"
  | .minute => "minute must be in 0..59"
  | .second => "second must be in 0..59"
  | .microsecond => "microsecond must be in 0..999999"
  | .partCount => "a timestamp has three to seven parts"

namespace Timestamp

def isLeapYear (year : Int) : Bool :=
  year % 4 == 0 && (year % 100 != 0 || year % 400 == 0)

def daysInMonth (year month : Int) : Int :=
  if month = 2 then if isLeapYear year then 29 else 28
  else if month = 4 ∨ month = 6 ∨ month = 9 ∨ month = 11 then 30
  else 31

def fits (part : Int) : Bool := -0x80000000 ≤ part && part < 0x80000000

def make? (year month day : Int) (hour minute second microsecond : Int := 0) :
    Except TimestampError Timestamp :=
  if year < 1 ∨ 9999 < year then .error (.year year)
  else if month < 1 ∨ 12 < month then .error .month
  else if day < 1 ∨ daysInMonth year month < day then .error .day
  else if hour < 0 ∨ 23 < hour then .error .hour
  else if minute < 0 ∨ 59 < minute then .error .minute
  else if second < 0 ∨ 59 < second then .error .second
  else if microsecond < 0 ∨ 999999 < microsecond then .error .microsecond
  else .ok ⟨year.toNat, month.toNat, day.toNat, hour.toNat, minute.toNat, second.toNat,
    microsecond.toNat⟩

example : make? 2000 2 29 = .ok { year := 2000, month := 2, day := 29 } ∧
    make? 1900 2 29 = .error .day := by
  constructor <;> rfl

/-- Make a timestamp from its parts in order, of which those after the day may be
left out. -/
def ofParts (parts : List Int) : Except TimestampError Timestamp :=
  if !(parts.take 7).all fits then .error .overflow
  else
    match parts with
    | year :: month :: day :: rest =>
        let part (index : Nat) : Int := rest.getD index 0
        match make? year month day (part 0) (part 1) (part 2) (part 3) with
        | .error error => .error error
        | .ok made => if 4 < rest.length then .error .partCount else .ok made
    | _ => .error .partCount

example : ofParts [2000, 2, 29, 23] = .ok { year := 2000, month := 2, day := 29, hour := 23 } ∧
    ofParts [2000, 2] = .error .partCount ∧ ofParts [0, 1, 0x80000000] = .error .overflow := by
  refine ⟨?_, ?_, ?_⟩ <;> rfl

private def twoDigits (number : Nat) : Text :=
  let digits := (toString number).toList
  List.replicate (2 - digits.length) '0' ++ digits

/-- The date and the time of day, as a point in universal time. Parts of a second
are not shown. -/
def describe (timestamp : Timestamp) : Text :=
  (toString timestamp.year).toList ++ '-' :: twoDigits timestamp.month ++
    '-' :: twoDigits timestamp.day ++ 'T' :: twoDigits timestamp.hour ++
    ':' :: twoDigits timestamp.minute ++ ':' :: twoDigits timestamp.second ++ ['Z']

example : ({ year := 2011, month := 11, day := 3 } : Timestamp).describe =
    "2011-11-03T00:00:00Z".toList := by decide +kernel

end Timestamp

structure Document where
  text : Text
  date : Option Timestamp := none
  language : Option Text := none
  tiers : Tiers := []

namespace Document

def length (document : Document) : Nat := document.text.length

/-- The language, if the document declares one that is not empty. -/
def declaredLanguage (document : Document) : Option Text :=
  document.language.filter (· ≠ [])

def setTier (document : Document) (name : String) (tier : Tier) : Document :=
  { document with tiers := document.tiers.set name tier }

def update (document : Document) (tiers : Tiers) : Document :=
  { document with tiers := document.tiers.update tiers }

def toValue (document : Document) : Value :=
  .record ([("text".toList, .text document.text)] ++
    (document.date.map fun date => ("date".toList, Value.text date.describe)).toList ++
    (document.declaredLanguage.map fun language =>
      ("language".toList, Value.text language)).toList ++
    [("tiers".toList, .record (document.tiers.map fun entry =>
      (entry.1.toList, entry.2.toValue)))])

end Document

/-! ## Annotators

An annotator works in surroundings of its own, whose state is of type `σ`, and
can fail. It may look at the document and, when it needs the tiers of another
annotator first, extend it. Whatever it does, the document and the state it
leaves behind are part of the outcome. -/

structure Outcome (σ ε α : Type) where
  result : Except ε α
  document : Document
  state : σ

/-- An annotator answers with the tiers it has made, or with nothing. -/
abbrev Annotator (σ ε : Type) := Document → σ → Outcome σ ε (Option Tiers)

inductive RequireError (ε : Type) where
  | badRequest
  | missing (available : List String)
  | annotator (failure : ε)

def missingTiersMessage (available : List String) : String :=
  "Tier could not be found. Available tiers: " ++
    String.ofList (Text.quotedList (available.map String.toList))

namespace Document

variable {σ ε : Type}

def annotate (annotator : Annotator σ ε) (document : Document) (state : σ) :
    Outcome σ ε Unit :=
  match annotator document state with
  | ⟨.error failure, document, state⟩ => ⟨.error failure, document, state⟩
  | ⟨.ok none, document, state⟩ => ⟨.ok (), document, state⟩
  | ⟨.ok (some tiers), document, state⟩ => ⟨.ok (), document.update tiers, state⟩

def tiers? (document : Document) (names : List String) : Option (List Tier) :=
  names.mapM document.tiers.get?

def demand (names : List String) (document : Document) (state : σ) :
    Outcome σ (RequireError ε) (List Tier) :=
  match document.tiers? names with
  | some tiers => ⟨.ok tiers, document, state⟩
  | none => ⟨.error (.missing document.tiers.keys), document, state⟩

/-- The tiers of these names. If one is missing, the annotator is run once to
make them. `strayOptions` counts the options of the request that mean nothing. -/
def require (names : List String) (annotator : Option (Annotator σ ε))
    (strayOptions : Nat) (document : Document) (state : σ) :
    Outcome σ (RequireError ε) (List Tier) :=
  if strayOptions ≠ 0 ∨ names = [] then
    ⟨.error .badRequest, document, state⟩
  else
    match document.tiers? names, annotator with
    | some tiers, _ => ⟨.ok tiers, document, state⟩
    | none, none => demand names document state
    | none, some annotator =>
        match document.annotate annotator state with
        | ⟨.error failure, document, state⟩ =>
            ⟨.error (.annotator failure), document, state⟩
        | ⟨.ok (), document, state⟩ => demand names document state

end Document

/-- What a request for tiers gets. A single tier comes by itself. -/
inductive Requested where
  | one (tier : Tier)
  | several (tiers : List Tier)
  deriving Repr

def Requested.ofTiers : List Tier → Requested
  | [tier] => .one tier
  | tiers => .several tiers

def Document.request {σ ε : Type} (names : List String) (annotator : Option (Annotator σ ε))
    (strayOptions : Nat) (document : Document) (state : σ) :
    Outcome σ (RequireError ε) Requested :=
  let outcome := document.require names annotator strayOptions state
  { outcome with result := outcome.result.map .ofTiers }

/-! What every annotator and every loader offers, before one says how. -/

inductive Unimplemented where
  | annotate
  | load
  deriving DecidableEq, Repr

def Unimplemented.message : Unimplemented → String
  | .annotate => "annotate method must be implemented in child"
  | .load => "load method must be implemented in child"

def Annotator.unspecified {σ : Type} : Annotator σ Unimplemented :=
  fun document state => ⟨.error .annotate, document, state⟩

end Standoff
