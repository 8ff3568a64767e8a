import Mathlib.Algebra.Ring.Nat
import Standoff.Proofs.Channel.Response

/-! Where a reader stands in a stream after it has received sentences. A sentence takes
one answer for each of its tokens and one more if its block is complete. Otherwise it
takes the answers up to the first that breaks the block, and no other. -/

namespace Standoff

/-! ## Blocks that break -/

section

variable {separator : Text} {field : Int} {answers : List (Except ReadFault Text)}

def TaggedAt (separator : Text) (field : Int) (answers : List (Except ReadFault Text))
    (index : Nat) : Prop :=
  ∃ line tag, answers[index]? = some (.ok line) ∧ TagLine separator field line tag

theorem TagLines.taggedAt {tags : List Text} {rest : List (Except ReadFault Text)}
    (lines : TagLines separator field answers tags rest) {index : Nat}
    (bound : index < tags.length) : TaggedAt separator field answers index := by
  induction lines generalizing index with
  | nil => cases bound
  | @cons line tag answers rest tags here later induction =>
      cases index with
      | zero => exact ⟨line, tag, rfl, here⟩
      | succ index => exact induction (Nat.lt_of_succ_lt_succ bound)

/-- The answer at some place fits into the block of a sentence: there is a line with a
tag for each token, and a blank line behind them. -/
def FitsAt (separator : Text) (field : Int) (count : Nat)
    (answers : List (Except ReadFault Text)) (index : Nat) : Prop :=
  if index < count then TaggedAt separator field answers index
  else ∃ line, answers[index]? = some (.ok line) ∧ Text.isBlank line

theorem fitsAt_of_block {tags : List Text} {rest : List (Except ReadFault Text)}
    (block : Block separator field answers tags rest) {index : Nat}
    (bound : index ≤ tags.length) : FitsAt separator field tags.length answers index := by
  rcases block with ⟨blank, isBlank, lines⟩
  by_cases less : index < tags.length
  · rw [FitsAt, if_pos less]
    exact lines.taggedAt less
  · obtain rfl : index = tags.length := by omega
    have place : answers[tags.length]? = some (.ok blank) := by
      rw [← Nat.add_zero tags.length, ← List.getElem?_drop, lines.drop_eq, List.getElem?_cons_zero]
    rw [FitsAt, if_neg less]
    exact ⟨blank, place, isBlank⟩

structure BreaksAt (separator : Text) (field : Int) (count : Nat)
    (answers : List (Except ReadFault Text)) (index : Nat) : Prop where
  within : index ≤ count
  before : ∀ earlier < index, FitsAt separator field count answers earlier
  here : ¬ FitsAt separator field count answers index

/-- The answer at some place is a line with something in it, but with too few fields for
one that is counted from the end. -/
def ShortAt (separator : Text) (field : Int) (answers : List (Except ReadFault Text))
    (index : Nat) : Prop :=
  field < 0 ∧ ∃ line, answers[index]? = some (.ok line) ∧ ¬ Text.isBlank line ∧
    ((Text.pieces separator (Text.chomp line)).length : Int) < -field

/-- The error that an answer is to blame for. -/
inductive Blamed (separator : Text) (field : Int) (answers : List (Except ReadFault Text))
    (index : Nat) : ChannelError → Prop
  | outOfRange (short : ShortAt separator field answers index) :
      Blamed separator field answers index .fieldOutOfRange
  | protocol (long : ¬ ShortAt separator field answers index) (cause : ProtocolError) :
      Blamed separator field answers index (.protocol cause)

theorem Blamed.behind {index : Nat} {error : ChannelError}
    (blamed : Blamed separator field answers index error) (answer : Except ReadFault Text) :
    Blamed separator field (answer :: answers) (index + 1) error := by
  cases blamed with
  | outOfRange short => exact .outOfRange short
  | protocol long cause =>
      have longBehind : ¬ ShortAt separator field (answer :: answers) (index + 1) := long
      exact .protocol longBehind cause

end

/-! ## Positions in a stream -/

def visible? : Except ReadFault Text → Option Text
  | .ok line => if Text.isBlank line then none else some (Text.chomp line)
  | .error _ => none

/-- The last line in which there is something to be seen. -/
def lastVisible (answers : List (Except ReadFault Text)) : Option Text :=
  (answers.filterMap visible?).getLast?

theorem lastVisible_concat (answers : List (Except ReadFault Text))
    (answer : Except ReadFault Text) :
    lastVisible (answers ++ [answer]) = (visible? answer).or (lastVisible answers) := by
  cases found : visible? answer <;> simp [lastVisible, found]

namespace ResponseReader

/-- A reader that has read some answers of a stream and has yet to read others. -/
structure HasRead (separator : Text) (field : Int) (seen answers : List (Except ReadFault Text))
    (reader : ResponseReader) : Prop extends Awaits separator field answers reader where
  lastReceived : reader.lastReceived = lastVisible seen

def reads (reader : ResponseReader) : Nat → ResponseReader
  | 0 => reader
  | count + 1 => reader.readLine.2.reads count

theorem reads_add (reader : ResponseReader) (first second : Nat) :
    reader.reads (first + second) = (reader.reads first).reads second := by
  induction first generalizing reader with
  | zero => rw [Nat.zero_add, reads]
  | succ first induction => rw [Nat.add_right_comm, reads, induction, reads]

section

variable {separator : Text} {field : Int} {seen answers : List (Except ReadFault Text)}
  {reader : ResponseReader}

theorem readLine_of_nil (opened : reader.stream.closed = false)
    (waiting : reader.stream.answers = []) : reader.readLine.2 = reader := by
  unfold readLine LineStream.next
  rw [opened, waiting, if_neg Bool.false_ne_true]
  cases reader.stream.ending <;> rfl

theorem readLine_of_cons {answer : Except ReadFault Text} {rest : List (Except ReadFault Text)}
    (opened : reader.stream.closed = false) (waiting : reader.stream.answers = answer :: rest) :
    reader.readLine.2 = { reader with
      stream := { reader.stream with answers := rest }
      lastReceived := (visible? answer).or reader.lastReceived } := by
  unfold readLine LineStream.next
  rw [opened, waiting, if_neg Bool.false_ne_true]
  rcases answer with fault | line
  · simp [Except.map, visible?, opened]
  · cases blank : Text.isBlank line <;> simp [Except.map, visible?, opened, blank]

theorem Awaits.readLine (awaits : Awaits separator field answers reader) :
    Awaits separator field (answers.drop 1) reader.readLine.2 := by
  rcases answers with _ | ⟨answer, rest⟩
  · rw [readLine_of_nil awaits.opened awaits.answers]
    exact awaits
  · rw [readLine_of_cons awaits.opened awaits.answers]
    exact ⟨awaits.opened, awaits.separator, awaits.field, rfl⟩

/-- An attempt finds the line in front, or it finds none, which is the end or a fault. -/
theorem Awaits.readLine_cases (awaits : Awaits separator field answers reader) :
    (∃ line rest, answers = .ok line :: rest ∧
      reader.readLine = (.ok (some (Text.chomp line)), reader.readLine.2)) ∨
    ((∀ line, answers[0]? ≠ some (.ok line)) ∧
      (reader.readLine = (.ok none, reader.readLine.2) ∨
        ∃ fault, reader.readLine =
          (.error (.protocol (.unreadable fault)), reader.readLine.2))) := by
  rcases awaits with ⟨opened, _, _, waiting⟩
  unfold ResponseReader.readLine LineStream.next
  rw [opened, waiting, if_neg Bool.false_ne_true]
  rcases answers with _ | ⟨fault | line, rest⟩
  · refine Or.inr ⟨nofun, ?_⟩
    cases reader.stream.ending with
    | none => exact Or.inl rfl
    | some fault => exact Or.inr ⟨fault, rfl⟩
  · exact Or.inr ⟨nofun, Or.inr ⟨fault, rfl⟩⟩
  · exact Or.inl ⟨line, rest, rfl, rfl⟩

theorem HasRead.readLine (read : HasRead separator field seen answers reader) :
    HasRead separator field (seen ++ answers.take 1) (answers.drop 1) reader.readLine.2 := by
  refine ⟨read.toAwaits.readLine, ?_⟩
  rcases answers with _ | ⟨answer, rest⟩
  · rw [readLine_of_nil read.opened read.answers, List.take_nil, List.append_nil]
    exact read.lastReceived
  · rw [readLine_of_cons read.opened read.answers, read.lastReceived]
    exact (lastVisible_concat seen answer).symm

theorem Awaits.reads (awaits : Awaits separator field answers reader) (count : Nat) :
    Awaits separator field (answers.drop count) (reader.reads count) := by
  induction count generalizing reader answers with
  | zero => exact awaits
  | succ count induction =>
      have rest := induction awaits.readLine
      rw [List.drop_drop, Nat.add_comm 1] at rest
      exact rest

theorem HasRead.reads (read : HasRead separator field seen answers reader) (count : Nat) :
    HasRead separator field (seen ++ answers.take count) (answers.drop count)
      (reader.reads count) := by
  induction count generalizing reader seen answers with
  | zero => simpa [ResponseReader.reads] using read
  | succ count induction =>
      have rest := induction read.readLine
      rw [List.append_assoc, ← List.take_add, List.drop_drop, Nat.add_comm 1] at rest
      exact rest

/-! ## Receiving a sentence -/

theorem fieldAt?_eq_none_iff {fields : List Text} {index : Int} (fromEnd : index < 0) :
    fieldAt? fields index = none ↔ (fields.length : Int) < -index := by
  unfold fieldAt?
  rw [if_neg (Int.not_le.mpr fromEnd)]
  split
  · rw [List.getElem?_eq_none_iff]
    omega
  · exact iff_of_true rfl (by omega)

theorem blamed_of_tagOfLine {line : Text} {error : ChannelError}
    {rest : List (Except ReadFault Text)} (nonempty : separator ≠ [])
    (visible : ¬ Text.isBlank line)
    (failed : tagOfLine (some separator) field (Text.chomp line) = .error error) :
    Blamed separator field (.ok line :: rest) 0 error := by
  have shortAt : ShortAt separator field (.ok line :: rest) 0 ↔
      field < 0 ∧ fieldAt? (Text.pieces separator (Text.chomp line)) field = none := by
    refine and_congr_right fun fromEnd => ?_
    rw [fieldAt?_eq_none_iff fromEnd]
    simp [visible]
  cases separator with
  | nil => exact absurd rfl nonempty
  | cons first others =>
      simp only [tagOfLine, fieldsOfLine] at failed
      rw [← fieldAt?] at failed
      cases found : fieldAt? (Text.pieces (first :: others) (Text.chomp line)) field with
      | some content =>
          rw [found] at failed shortAt
          have long : ¬ ShortAt (first :: others) field (.ok line :: rest) 0 := by
            intro short
            cases (shortAt.mp short).2
          by_cases blank : Text.isBlank content
          · simp only [blank, if_true] at failed
            cases failed
            exact .protocol long _
          · simp [blank] at failed
      | none =>
          rw [found] at failed shortAt
          by_cases least : 0 ≤ field
          · simp only [least, if_true] at failed
            cases failed
            exact .protocol (fun short => by have := short.1; omega) _
          · simp only [least, if_false] at failed
            cases failed
            exact .outOfRange (shortAt.mpr ⟨by omega, rfl⟩)

theorem receiveTags_of_tagged {line tag : Text} {rest : List (Except ReadFault Text)}
    (nonempty : separator ≠ []) (awaits : Awaits separator field (.ok line :: rest) reader)
    (tagged : TagLine separator field line tag) (expected : Int) (received missing : Nat) :
    receiveTags expected received (missing + 1) reader =
      ((receiveTags expected (received + 1) missing reader.readLine.2).1.map (tag :: ·),
        (receiveTags expected (received + 1) missing reader.readLine.2).2) := by
  have next := awaits.readLine
  have visible : Text.isBlank (Text.chomp line) = false := by simpa using tagged.visible
  have read := (tagOfLine_eq_ok_iff nonempty).mpr tagged.tagged
  rcases awaits.readLine_cases with ⟨_, _, inFront, reading⟩ | ⟨absent, _⟩
  · cases inFront
    rw [receiveTags, reading]
    simp only [visible, next.separator, next.field, read, Bool.false_eq_true, if_false]
  · exact absurd rfl (absent line)

theorem receiveTags_of_untagged (nonempty : separator ≠ [])
    (awaits : Awaits separator field answers reader)
    (untagged : ¬ TaggedAt separator field answers 0) (expected : Int)
    (received missing : Nat) :
    ∃ error, receiveTags expected received (missing + 1) reader =
      (.error error, reader.readLine.2) ∧ Blamed separator field answers 0 error := by
  have next := awaits.readLine
  rw [receiveTags]
  rcases awaits.readLine_cases with ⟨line, rest, rfl, reading⟩ | ⟨absent, reading⟩
  · rw [reading]
    by_cases blank : Text.isBlank line
    · have long : ¬ ShortAt separator field (.ok line :: rest) 0 := by
        rintro ⟨_, other, inFront, visible, _⟩
        cases inFront
        exact visible blank
      simp only [Text.isBlank_chomp, blank, if_true]
      exact ⟨_, rfl, .protocol long _⟩
    · simp only [Text.isBlank_chomp, blank, Bool.false_eq_true, if_false, next.separator,
        next.field]
      cases tagged : tagOfLine (some separator) field (Text.chomp line) with
      | error error => exact ⟨error, rfl, blamed_of_tagOfLine nonempty blank tagged⟩
      | ok tag =>
          exact absurd ⟨line, tag, rfl, blank, (tagOfLine_eq_ok_iff nonempty).mp tagged⟩ untagged
  · have long : ¬ ShortAt separator field answers 0 := by
      rintro ⟨_, line, inFront, _⟩
      exact absent line inFront
    rcases reading with reading | ⟨fault, reading⟩
    · rw [reading]
      exact ⟨_, rfl, .protocol long _⟩
    · rw [reading]
      exact ⟨_, rfl, .protocol long _⟩

theorem receiveTags_cases (nonempty : separator ≠ [])
    (awaits : Awaits separator field answers reader) (expected : Int) (received missing : Nat) :
    (∃ tags, receiveTags expected received missing reader = (.ok tags, reader.reads missing) ∧
      tags.length = missing ∧ TagLines separator field answers tags (answers.drop missing)) ∨
    ∃ index < missing, ∃ error,
      receiveTags expected received missing reader = (.error error, reader.reads (index + 1)) ∧
      (∀ earlier < index, TaggedAt separator field answers earlier) ∧
      ¬ TaggedAt separator field answers index ∧
      Blamed separator field answers index error := by
  induction missing generalizing reader answers received with
  | zero => exact Or.inl ⟨[], rfl, rfl, .nil⟩
  | succ missing induction =>
      by_cases front : TaggedAt separator field answers 0
      · rcases front with ⟨line, tag, inFront, tagged⟩
        rcases answers with _ | ⟨answer, rest⟩
        · cases inFront
        cases inFront
        rw [receiveTags_of_tagged nonempty awaits tagged]
        rcases induction awaits.readLine (received + 1) with
          ⟨tags, receives, count, lines⟩ | ⟨index, bound, error, receives, before, here, blamed⟩
        · rw [receives]
          exact Or.inl ⟨tag :: tags, rfl, congrArg (· + 1) count, .cons tagged lines⟩
        · rw [receives]
          refine Or.inr ⟨index + 1, Nat.succ_lt_succ bound, error, rfl, ?_, here, blamed.behind _⟩
          intro earlier less
          cases earlier with
          | zero => exact ⟨line, tag, rfl, tagged⟩
          | succ earlier => exact before earlier (Nat.lt_of_succ_lt_succ less)
      · rcases receiveTags_of_untagged nonempty awaits front expected received missing with
          ⟨error, receives, blamed⟩
        exact Or.inr ⟨0, Nat.succ_pos _, error, receives, nofun, front, blamed⟩

theorem receive_of_tags {tags : List Text} {count : Nat} {next : ResponseReader}
    (receives : receiveTags count 0 count reader = (.ok tags, next))
    (awaits : Awaits separator field answers next) :
    (∃ blank rest, answers = .ok blank :: rest ∧ Text.isBlank blank ∧
      reader.receive count = (.ok tags, next.readLine.2)) ∨
    ((¬ ∃ line, answers[0]? = some (.ok line) ∧ Text.isBlank line) ∧
      ∃ cause, reader.receive count = (.error (.protocol cause), next.readLine.2)) := by
  simp only [receive, Int.toNat_natCast, receives]
  rcases awaits.readLine_cases with ⟨line, rest, rfl, reading⟩ | ⟨absent, reading⟩
  · rw [reading]
    by_cases blank : Text.isBlank line
    · refine Or.inl ⟨line, rest, rfl, blank, ?_⟩
      simp only [Text.isBlank_chomp, blank, if_true]
    · simp only [Text.isBlank_chomp, blank, Bool.false_eq_true, if_false]
      refine Or.inr ⟨?_, _, rfl⟩
      rintro ⟨other, inFront, otherBlank⟩
      cases inFront
      exact blank otherBlank
  · have unended : ¬ ∃ line, answers[0]? = some (.ok line) ∧ Text.isBlank line := by
      rintro ⟨line, inFront, _⟩
      exact absent line inFront
    rcases reading with reading | ⟨fault, reading⟩
    · rw [reading]
      exact Or.inr ⟨unended, _, rfl⟩
    · rw [reading]
      exact Or.inr ⟨unended, _, rfl⟩

/-- A sentence is received from a block of answers, or up to the first answer that breaks
the block. -/
theorem receive_cases (nonempty : separator ≠ [])
    (awaits : Awaits separator field answers reader) (count : Nat) :
    (∃ tags, reader.receive count = (.ok tags, reader.reads (count + 1)) ∧
      tags.length = count ∧ Block separator field answers tags (answers.drop (count + 1))) ∨
    ∃ index error, reader.receive count = (.error error, reader.reads (index + 1)) ∧
      BreaksAt separator field count answers index ∧
      (error = .fieldOutOfRange ↔ index < count ∧ ShortAt separator field answers index) ∧
      (error ≠ .fieldOutOfRange → ∃ cause, error = .protocol cause) := by
  rcases receiveTags_cases nonempty awaits count 0 count with
    ⟨tags, receives, length, lines⟩ | ⟨index, bound, error, receives, before, here, blamed⟩
  · rw [reader.reads_add count 1]
    rcases receive_of_tags receives (awaits.reads count) with
      ⟨blank, rest, dropped, isBlank, received⟩ | ⟨unended, cause, received⟩
    · have behind : answers.drop (count + 1) = rest := by
        rw [← List.drop_drop, dropped, List.drop_one, List.tail_cons]
      rw [dropped] at lines
      rw [behind]
      exact Or.inl ⟨tags, received, length, blank, isBlank, lines⟩
    · rw [List.getElem?_drop, Nat.add_zero] at unended
      refine Or.inr ⟨count, _, ?_, ⟨Nat.le_refl count, ?_, ?_⟩, ?_, fun _ => ⟨cause, rfl⟩⟩
      · rw [received, reader.reads_add count 1]
        rfl
      · intro earlier less
        rw [FitsAt, if_pos less]
        exact lines.taggedAt (length ▸ less)
      · rwa [FitsAt, if_neg (Nat.lt_irrefl count)]
      · exact iff_of_false nofun fun short => Nat.lt_irrefl count short.1
  · have within : index ≤ count := Nat.le_of_lt bound
    refine Or.inr ⟨index, error, ?_, ⟨within, ?_, ?_⟩, ?_, ?_⟩
    · simp only [receive, Int.toNat_natCast, receives]
    · intro earlier less
      rw [FitsAt, if_pos (Nat.lt_trans less bound)]
      exact before earlier less
    · rwa [FitsAt, if_pos bound]
    · cases blamed with
      | outOfRange short => exact iff_of_true rfl ⟨bound, short⟩
      | protocol long cause => exact iff_of_false nofun fun short => long short.2
    · cases blamed with
      | outOfRange => exact fun other => absurd rfl other
      | protocol long cause => exact fun _ => ⟨cause, rfl⟩

theorem receive_of_block {tags : List Text} {rest : List (Except ReadFault Text)}
    (nonempty : separator ≠ []) (awaits : Awaits separator field answers reader)
    (block : Block separator field answers tags rest) :
    ∃ after, reader.receive tags.length = (.ok tags, after) ∧
      Awaits separator field rest after := by
  have behind := awaits.reads (tags.length + 1)
  rw [drop_eq_of_block block] at behind
  rcases receive_cases nonempty awaits tags.length with
    ⟨others, received, count, other⟩ | ⟨_, _, _, breaks, _⟩
  · rw [eq_of_block block other count] at received
    exact ⟨_, received, behind⟩
  · exact absurd (fitsAt_of_block block breaks.within) breaks.here

theorem block_of_receive {tags : List Text} {after : ResponseReader} {count : Nat}
    (nonempty : separator ≠ []) (awaits : Awaits separator field answers reader)
    (received : reader.receive count = (.ok tags, after)) :
    ∃ rest, Block separator field answers tags rest ∧ tags.length = count ∧
      Awaits separator field rest after := by
  rcases receive_cases nonempty awaits count with
    ⟨others, found, length, block⟩ | ⟨_, _, failed, _⟩
  · cases found.symm.trans received
    exact ⟨_, block, length, awaits.reads (count + 1)⟩
  · cases failed.symm.trans received

end

/-! ## Sentences one after the other -/

def receives (reader : ResponseReader) (counts : List Nat) : ResponseReader :=
  counts.foldl (fun reader (count : Nat) => (reader.receive count).2) reader

section

variable {separator : Text} {field : Int} {answers : List (Except ReadFault Text)}
  {reader : ResponseReader}

theorem exists_reads_of_receive (nonempty : separator ≠ [])
    (awaits : Awaits separator field answers reader) (count : Nat) :
    ∃ taken ≤ count + 1, (reader.receive count).2 = reader.reads taken := by
  rcases receive_cases nonempty awaits count with
    ⟨tags, received, _⟩ | ⟨index, error, received, breaks, _⟩
  · exact ⟨count + 1, Nat.le_refl _, congrArg Prod.snd received⟩
  · exact ⟨index + 1, Nat.succ_le_succ breaks.within, congrArg Prod.snd received⟩

theorem exists_reads_of_receives (nonempty : separator ≠ [])
    (awaits : Awaits separator field answers reader) (counts : List Nat) :
    ∃ taken ≤ (counts.map (· + 1)).sum, reader.receives counts = reader.reads taken := by
  induction counts generalizing reader answers with
  | nil => exact ⟨0, Nat.le_refl 0, rfl⟩
  | cons count rest induction =>
      rcases exists_reads_of_receive nonempty awaits count with ⟨first, bound, here⟩
      rcases induction (awaits.reads first) with ⟨second, boundRest, later⟩
      refine ⟨first + second, ?_, ?_⟩
      · rw [List.map_cons, List.sum_cons]
        exact Nat.add_le_add bound boundRest
      · rw [receives, List.foldl_cons, here, reader.reads_add, ← later]
        rfl

end

/-- Whatever was received before, a sentence is received if and only if the answers in
front are lines with a tag for each token and a blank line. It takes these answers, or
else those up to the first that does not fit, which decides on the error. -/
theorem receive_framed {separator : Text} (nonempty : separator ≠ []) (field : Int)
    {stream : LineStream} (opened : stream.closed = false) (earlier : List Nat) (count : Nat) :
    let fresh : ResponseReader := { stream, separator := some separator, field }
    let reader := fresh.receives earlier
    (∀ taken, (fresh.reads taken).stream.answers = stream.answers.drop taken ∧
      (fresh.reads taken).lastReceived = lastVisible (stream.answers.take taken)) ∧
    ∃ taken ≤ (earlier.map (· + 1)).sum, reader = fresh.reads taken ∧
      let answers := stream.answers.drop taken
      ((∃ tags, (reader.receive count).1 = .ok tags) ↔
        ∀ index ≤ count, FitsAt separator field count answers index) ∧
      (∀ tags, (reader.receive count).1 = .ok tags → tags.length = count ∧
        Block separator field answers tags (answers.drop (count + 1)) ∧
        (reader.receive count).2 = fresh.reads (taken + (count + 1))) ∧
      ∀ error, (reader.receive count).1 = .error error → ∃ index,
        BreaksAt separator field count answers index ∧
        (reader.receive count).2 = fresh.reads (taken + (index + 1)) ∧
        (error = .fieldOutOfRange ↔ index < count ∧ ShortAt separator field answers index) ∧
        (error ≠ .fieldOutOfRange → ∃ cause, error = .protocol cause) := by
  intro fresh reader
  have start : HasRead separator field [] stream.answers fresh := ⟨⟨opened, rfl, rfl, rfl⟩, rfl⟩
  refine ⟨fun taken => ⟨(start.reads taken).answers, (start.reads taken).lastReceived⟩, ?_⟩
  rcases exists_reads_of_receives nonempty start.toAwaits earlier with ⟨taken, bound, same⟩
  refine ⟨taken, bound, same, ?_⟩
  intro answers
  have awaits : Awaits separator field answers reader := by
    rw [show reader = fresh.reads taken from same]
    exact start.toAwaits.reads taken
  have behind (more : Nat) : reader.reads more = fresh.reads (taken + more) := by
    rw [fresh.reads_add, ← same]
  rcases receive_cases nonempty awaits count with
    ⟨tags, received, length, block⟩ | ⟨index, error, received, breaks, range, protocol⟩
  · rw [received, behind]
    refine ⟨iff_of_true ⟨tags, rfl⟩ ?_, ?_, nofun⟩
    · intro index bound
      rw [← length] at bound ⊢
      exact fitsAt_of_block block bound
    · intro others same
      cases same
      exact ⟨length, block, rfl⟩
  · rw [received, behind]
    refine ⟨iff_of_false nofun ?_, nofun, ?_⟩
    · intro fits
      exact breaks.here (fits index breaks.within)
    · intro other same
      cases same
      exact ⟨index, breaks, rfl, range, protocol⟩

/-- Behind a complete sentence, a line without the field that is second from the end. -/
theorem receive_framed_from_end :
    let stream := LineStream.ofText "a\tNN\tx\n\nshort\n\n".toList
    let fresh : ResponseReader := { stream, separator := some ['\t'], field := -2 }
    let reader := fresh.receives [1]
    (reader.receive 1).1 = .error .fieldOutOfRange ∧
      ∃ taken index, reader = fresh.reads taken ∧
        BreaksAt ['\t'] (-2) 1 (stream.answers.drop taken) index ∧
        (reader.receive 1).2 = fresh.reads (taken + (index + 1)) ∧
        ShortAt ['\t'] (-2) (stream.answers.drop taken) index := by
  intro stream fresh reader
  have failed : (reader.receive 1).1 = .error .fieldOutOfRange := rfl
  rcases receive_framed (by decide : ['\t'] ≠ []) (-2) (rfl : stream.closed = false) [1] 1 with
    ⟨_, taken, _, same, _, _, framed⟩
  rcases framed _ failed with ⟨index, breaks, after, range, _⟩
  exact ⟨failed, taken, index, same, breaks, after, (range.mp rfl).2⟩

end ResponseReader

end Standoff
