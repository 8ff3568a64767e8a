import Standoff.LineStream
import Standoff.Proofs.Encoding.RoundTrip
import Standoff.Proofs.Text

/-! Lines arrive as they were written. They do not depend on the pieces in which their bytes
are read, though a piece may end inside a character or between a carriage return and the
line feed after it. -/

namespace Standoff

/-! ## Line feeds -/

namespace Encoding

theorem encodeCharacter_lineFeed (encoding : Encoding) :
    encoding.encodeCharacter '\n' = [0x0A] := by
  cases encoding <;> rfl

theorem writable_lineFeed (encoding : Encoding) : encoding.writable '\n' := by
  cases encoding <;> rfl

theorem eq_nil_of_encode {encoding : Encoding} {text : Text}
    (encoded : encoding.encode text = .ok []) : text = [] := by
  have decoded := decode_encode encoded
  have nothing : encoding.decode [] = .ok ([], []) := by cases encoding <;> rfl
  rw [nothing] at decoded
  exact (congrArg Prod.fst (Except.ok.inj decoded)).symm

end Encoding

/-! ## Pieces of a stored file -/

theorem Bytes.blocksFrom_flatten (size room : Nat) (bytes : Bytes) :
    (blocksFrom size room bytes).flatten = bytes := by
  induction bytes generalizing room with
  | nil => cases room <;> rfl
  | cons byte rest induction =>
      cases room with
      | zero =>
          have later := induction size
          rw [blocksFrom]
          split <;> simp_all
      | succ room =>
          have later := induction room
          rw [blocksFrom]
          split <;> simp_all

/-! ## What has been read determines what is kept -/

namespace Text

/-- Whether the text ends in a carriage return, which a line feed may still follow. -/
def endsOpen (text : Text) : Bool := text.getLast? == some '\r'

/-- The part of a text whose line ends are known. -/
def settled (text : Text) : Text := if text.endsOpen then text.dropLast else text

/-- The carriage return that is held back at the end of a text. -/
def heldBack (text : Text) : Text := if text.endsOpen then ['\r'] else []

theorem settled_cases (text : Text) :
    (text.endsOpen = true ∧ text.heldBack = ['\r'] ∧ text = text.settled ++ ['\r']) ∨
      (text.endsOpen = false ∧ text.heldBack = [] ∧ text = text.settled) := by
  rw [settled, heldBack]
  rcases opened : text.endsOpen with _ | _
  · exact Or.inr ⟨rfl, rfl, rfl⟩
  · refine Or.inl ⟨rfl, rfl, ?_⟩
    rw [endsOpen, beq_iff_eq, List.getLast?_eq_some_iff] at opened
    rcases opened with ⟨front, rfl⟩
    rw [if_pos rfl, List.dropLast_concat]

theorem settled_of_not_mem {text : Text} (absent : '\r' ∉ text) : text.settled = text := by
  rcases settled_cases text with ⟨_, _, whole⟩ | ⟨_, _, whole⟩
  · rw [whole] at absent
    exact absurd (List.mem_concat_self) absent
  · exact whole.symm

theorem append_eq_settled_append (text more : Text) :
    text ++ more = text.settled ++ (text.heldBack ++ more) := by
  rcases settled_cases text with ⟨_, held, whole⟩ | ⟨_, held, whole⟩
  · rw [held, ← List.append_assoc, ← whole]
  · rw [held, List.nil_append, ← whole]

theorem endsOpen_append (text more : Text) :
    (text ++ more).endsOpen = (text.heldBack ++ more).endsOpen := by
  cases more with
  | nil =>
      rw [List.append_nil, List.append_nil]
      rcases settled_cases text with ⟨opened, held, _⟩ | ⟨closed, held, _⟩
      · rw [opened, held]
        rfl
      · rw [closed, held]
        rfl
  | cons character rest =>
      rw [endsOpen, endsOpen, List.getLast?_append, List.getLast?_append, List.getLast?_cons,
        Option.some_or, Option.some_or]

theorem settled_append (text more : Text) :
    (text ++ more).settled = text.settled ++ (text.heldBack ++ more).settled := by
  conv => lhs; rw [settled, endsOpen_append, append_eq_settled_append text more]
  generalize text.heldBack ++ more = next
  rw [settled.eq_1 next]
  rcases opened : next.endsOpen with _ | _
  · rfl
  · have nonempty : next ≠ [] := by
      intro empty
      rw [empty] at opened
      cases opened
    rw [if_pos rfl, if_pos rfl, List.dropLast_append_of_ne_nil nonempty]

/-- A carriage return is held back until the line feed that may belong to it is known. -/
theorem unifyLineEnds_settled_append (text more : Text) :
    unifyLineEnds (text ++ more).settled =
      unifyLineEnds text.settled ++ unifyLineEnds (text.heldBack ++ more).settled := by
  rw [settled_append]
  apply unifyLineEnds_append
  intro last first
  rcases settled_cases text with ⟨_, held, _⟩ | ⟨closed, _, whole⟩
  · -- What comes next begins with the carriage return, if anything of it is settled.
    rw [held, List.singleton_append, settled] at first
    split at first
    · cases more <;> cases first
    · cases first
  · rw [← whole, ← beq_iff_eq, ← endsOpen, closed] at last
    cases last

theorem unifyLineEnds_eq_settled (text : Text) :
    unifyLineEnds text =
      unifyLineEnds text.settled ++ if text.endsOpen then ['\n'] else [] := by
  rcases settled_cases text with ⟨opened, _, whole⟩ | ⟨closed, _, whole⟩
  · conv => lhs; rw [whole]
    rw [unifyLineEnds_append (by intro _ first; cases first), opened]
    rfl
  · rw [← whole, closed]
    exact (List.append_nil _).symm

theorem lines_concat_lineFeed (text : Text) :
    lines (text ++ ['\n']) = (breakLines text).1 ++ [(breakLines text).2 ++ ['\n']] := by
  have broken : breakLines (text ++ ['\n']) =
      ((breakLines text).1 ++ [(breakLines text).2 ++ ['\n']], []) := by
    induction text with
    | nil => rfl
    | cons character rest induction =>
        rw [List.cons_append, breakLines, induction, breakLines]
        rcases breakLines rest with ⟨finished, unfinished⟩
        by_cases lineFeed : character = '\n'
        · simp [lineFeed]
        · cases finished <;> simp [lineFeed]
  rw [lines, broken]

end Text

namespace Arrival

/-- What is kept when this text has been decoded and these bytes are left over. -/
def behind (seen : Text) (unfinished : Bytes) : Arrival where
  unfinished := unfinished
  heldReturn := seen.endsOpen
  line := (Text.breakLines (Text.unifyLineEnds seen.settled)).2

variable {encoding : Encoding}

theorem receive_behind (seen : Text) {decoded : Text} {unfinished piece left : Bytes}
    (decodes : encoding.decode (unfinished ++ piece) = .ok (decoded, left)) :
    ∃ finished,
      receive encoding (behind seen unfinished) piece =
        (finished.map .ok, behind (seen ++ decoded) left) ∧
      (Text.breakLines (Text.unifyLineEnds (seen ++ decoded).settled)).1 =
        (Text.breakLines (Text.unifyLineEnds seen.settled)).1 ++ finished := by
  have lines := Text.breakLines_append (Text.unifyLineEnds seen.settled)
    (Text.unifyLineEnds (seen.heldBack ++ decoded).settled)
  rw [← Text.unifyLineEnds_settled_append] at lines
  refine ⟨_, ?_, congrArg Prod.fst lines⟩
  rw [behind, behind, Text.endsOpen_append seen decoded, lines, Text.heldBack]
  simp only [receive, decodes]
  rcases seen.endsOpen with _ | _ <;> rfl

/-- The pieces of a text are read to its end, wherever they are cut. -/
theorem receiveAll_behind (seen : Text) {rest : Text} {unfinished : Bytes} {pieces : List Bytes}
    (writable : ∀ character ∈ rest, encoding.writable character)
    (whole : unfinished ++ pieces.flatten = rest.flatMap encoding.encodeCharacter)
    (ended : pieces = [] → rest = []) :
    ∃ finished,
      receiveAll encoding (behind seen unfinished) pieces =
        (finished.map .ok, behind (seen ++ rest) []) ∧
      (Text.breakLines (Text.unifyLineEnds (seen ++ rest).settled)).1 =
        (Text.breakLines (Text.unifyLineEnds seen.settled)).1 ++ finished := by
  induction pieces generalizing seen rest unfinished with
  | nil =>
      obtain rfl := ended rfl
      obtain rfl : unfinished = [] := (List.append_eq_nil_iff.mp whole).1
      rw [List.append_nil]
      exact ⟨[], rfl, (List.append_nil _).symm⟩
  | cons piece later induction =>
      rw [List.flatten_cons, ← List.append_assoc] at whole
      rcases Encoding.decode_front writable whole with
        ⟨decoded, unread, left, decodes, rfl, unreadWhole, unreadEnded⟩
      rcases receive_behind seen decodes with ⟨now, received, nowLines⟩
      have unreadWritable : ∀ character ∈ unread, encoding.writable character :=
        fun character member => writable character (List.mem_append_right _ member)
      have nothingLeft : later = [] → unread = [] := by
        intro last
        apply unreadEnded
        rw [last, List.flatten_nil]
      rcases induction (seen ++ decoded) unreadWritable unreadWhole nothingLeft with
        ⟨after, arrived, afterLines⟩
      refine ⟨now ++ after, ?_, ?_⟩
      · rw [receiveAll, received]
        simp only [arrived, List.map_append, List.append_assoc]
      · rw [← List.append_assoc, afterLines, nowLines, List.append_assoc]

theorem finish_behind (encoding : Encoding) (seen : Text) :
    ∃ last, finish encoding (behind seen []) = (last.map .ok, none) ∧
      Text.lines (Text.unifyLineEnds seen) =
        (Text.breakLines (Text.unifyLineEnds seen.settled)).1 ++ last := by
  rw [Text.unifyLineEnds_eq_settled, behind]
  rcases seen.endsOpen with _ | _
  · rw [if_neg Bool.false_ne_true, List.append_nil, Text.lines]
    rcases Text.breakLines (Text.unifyLineEnds seen.settled) with ⟨finished, _ | ⟨first, others⟩⟩
    · exact ⟨[], rfl, (List.append_nil finished).symm⟩
    · refine ⟨[first :: others], ?_, rfl⟩
      simp [finish]
  · rw [if_pos rfl, Text.lines_concat_lineFeed]
    rcases Text.breakLines (Text.unifyLineEnds seen.settled) with ⟨finished, unended⟩
    refine ⟨[unended ++ ['\n']], ?_, rfl⟩
    cases unended <;> rfl

end Arrival

/-! ## Lines in pieces -/

namespace LineStream

section

variable {encoding : Encoding} {text : Text} {pieces : List Bytes}
  (encoded : encoding.encode text = .ok pieces.flatten)

include encoded

theorem receiveAll_pieces : Arrival.receiveAll encoding {} pieces =
    ((Text.breakLines (Text.unifyLineEnds text.settled)).1.map .ok, Arrival.behind text []) := by
  rcases Encoding.encode_eq_ok_iff.mp encoded with ⟨writable, whole⟩
  have ended : pieces = [] → text = [] := by
    intro none
    rw [none, List.flatten_nil] at encoded
    exact Encoding.eq_nil_of_encode encoded
  rw [← List.nil_append pieces.flatten] at whole
  rcases Arrival.receiveAll_behind [] writable whole ended with ⟨finished, received, lines⟩
  rw [List.nil_append] at received lines
  rw [lines]
  exact received

/-- When reading on behind the pieces fails, the last line may be missing. -/
theorem answers_ofPieces_broken : (ofPieces encoding true pieces).answers =
    (Text.breakLines (Text.unifyLineEnds text.settled)).1.map .ok := by
  simp only [ofPieces, receiveAll_pieces encoded, if_true]

theorem ofPieces_eq : ofPieces encoding false pieces =
    { answers := (Text.lines (Text.unifyLineEnds text)).map .ok } := by
  rcases Arrival.finish_behind encoding text with ⟨last, finishes, all⟩
  simp only [ofPieces, receiveAll_pieces encoded, finishes, all, List.map_append,
    Bool.false_eq_true, if_false]

end

variable {encoding : Encoding}

/-- The lines arrive, whatever the pieces and whether reading on behind them fails or not. -/
theorem answers_ofPieces {lines : List Text} {pieces : List Bytes}
    (unbroken : ∀ line ∈ lines, line.Unbroken)
    (encoded : encoding.encode (lines.flatMap fun line => line ++ ['\n']) = .ok pieces.flatten)
    (broken : Bool) :
    (ofPieces encoding broken pieces).answers =
      lines.map fun line => .ok (line ++ ['\n']) := by
  have absent : '\r' ∉ lines.flatMap fun line => line ++ ['\n'] := by
    intro member
    rcases List.mem_flatMap.mp member with ⟨line, inLines, inLine⟩
    rcases List.mem_append.mp inLine with inside | atEnd
    · exact (unbroken line inLines).2 inside
    · cases List.mem_singleton.mp atEnd
  have brokenLines := Text.breakLines_flatMap unbroken
  cases broken with
  | true =>
      rw [answers_ofPieces_broken encoded, Text.settled_of_not_mem absent, brokenLines,
        List.map_map]
      rfl
  | false =>
      rw [ofPieces_eq encoded, Text.lines, brokenLines, List.map_map]
      rfl

theorem untilFault_of_lines (lines : List Text) (ending : Option ReadFault) :
    untilFault { answers := lines.map .ok, ending } = (lines, ending) := by
  have collected (stream : LineStream) :
      untilFault.collect stream (lines.map .ok) = (lines, stream.ending) := by
    induction lines with
    | nil => rfl
    | cons line rest induction => rw [List.map_cons, untilFault.collect, induction]
  exact collected _

theorem untilFault_ofStored {text : Text} {bytes : Bytes}
    (encoded : encoding.encode text = .ok bytes) :
    (ofStored encoding bytes).untilFault = (Text.lines (Text.unifyLineEnds text), none) := by
  rw [← Bytes.blocksFrom_flatten 8191 8192 bytes] at encoded
  rw [ofStored, Bytes.blocks, ofPieces_eq encoded, untilFault_of_lines]

end LineStream

end Standoff
