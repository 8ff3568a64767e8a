import Standoff.Encoding.Decode
import Standoff.Text.Line

/-! Lines read one after the other from something that may fail.

What a reader gets from a stream is a list of answers, each a line or a fault,
and after them the end or a fault that comes back at every further attempt. The
list is computed at once: the bytes arrive in pieces that nothing the reader
does can change. -/

namespace Standoff

/-! ## Streams -/

inductive ReadFault where
  | undecodable (fault : DecodingFault)
  | device
  deriving DecidableEq, Repr

def ReadFault.message : ReadFault → String
  | .undecodable fault => fault.message
  | .device => "[Errno 5] Input/output error"

structure LineStream where
  answers : List (Except ReadFault Text)
  /-- What an attempt to read finds after all answers: the end if there is no
  fault. -/
  ending : Option ReadFault := none
  closed : Bool := false

namespace LineStream

def next (stream : LineStream) : Except ReadFault (Option Text) × LineStream :=
  match stream.answers with
  | answer :: later => (answer.map some, { stream with answers := later })
  | [] =>
      match stream.ending with
      | none => (.ok none, stream)
      | some fault => (.error fault, stream)

def untilFault (stream : LineStream) : List Text × Option ReadFault :=
  collect stream.answers
where
  collect : List (Except ReadFault Text) → List Text × Option ReadFault
    | [] => ([], stream.ending)
    | .error fault :: _ => ([], some fault)
    | .ok line :: later =>
        let (lines, fault) := collect later
        (line :: lines, fault)

def ofText (text : Text) : LineStream where
  answers := (Text.lines text).map .ok

end LineStream

/-! ## Bytes that arrive in pieces -/

namespace Bytes

/-- Pieces that end after each line feed, as a program writes them that is read line by line. -/
def lineWise : Bytes → List Bytes
  | [] => []
  | byte :: rest =>
      if byte = 0x0A then
        [byte] :: lineWise rest
      else
        match lineWise rest with
        | [] => [[byte]]
        | first :: others => (byte :: first) :: others

/-- Pieces of `size + 1` bytes, as they are read from a stored file. `room` more
bytes fit into the piece being filled. -/
def blocksFrom (size : Nat) : (room : Nat) → Bytes → List Bytes
  | _, [] => [[]]
  | 0, byte :: rest => [] :: match blocksFrom size size rest with
      | [] => [[byte]]
      | first :: others => (byte :: first) :: others
  | room + 1, byte :: rest =>
      match blocksFrom size room rest with
      | [] => [[byte]]
      | first :: others => (byte :: first) :: others

def blocks (bytes : Bytes) : List Bytes := blocksFrom 8191 8192 bytes

theorem lineWise_flatten (bytes : Bytes) : (lineWise bytes).flatten = bytes := by
  induction bytes with
  | nil => rfl
  | cons byte rest induction =>
      simp only [lineWise]
      split
      · simp_all
      · split <;> simp_all

end Bytes

structure Arrival where
  unfinished : Bytes := []
  /-- Whether a carriage return at the end of a piece waits for the next
  character, which may be a line feed. -/
  heldReturn : Bool := false
  line : Text := []

namespace Arrival

/-- Take in one piece. A piece that cannot be decoded is lost, and with it the
line that it would have continued. -/
def receive (encoding : Encoding) (arrival : Arrival) (piece : Bytes) :
    List (Except ReadFault Text) × Arrival :=
  match encoding.decode (arrival.unfinished ++ piece) with
  | .error fault => ([.error (.undecodable fault)], { arrival with line := [] })
  | .ok (decoded, unfinished) =>
      let text := if arrival.heldReturn then '\r' :: decoded else decoded
      let heldReturn := text.getLast? == some '\r'
      let text := if heldReturn then text.dropLast else text
      let (finished, line) := Text.breakLines (arrival.line ++ Text.unifyLineEnds text)
      (finished.map .ok, { unfinished, heldReturn, line })

def finish (encoding : Encoding) (arrival : Arrival) :
    List (Except ReadFault Text) × Option ReadFault :=
  match arrival.unfinished with
  | [] =>
      match arrival.line ++ if arrival.heldReturn then ['\n'] else [] with
      | [] => ([], none)
      | line => ([.ok line], none)
  | unfinished => ([], some (.undecodable (encoding.truncated 0 unfinished)))

def receiveAll (encoding : Encoding) (arrival : Arrival) :
    List Bytes → List (Except ReadFault Text) × Arrival
  | [] => ([], arrival)
  | piece :: later =>
      let (now, arrival) := arrival.receive encoding piece
      let (after, arrival) := receiveAll encoding arrival later
      (now ++ after, arrival)

end Arrival

namespace LineStream

/-- The lines that arrive in pieces, all line ends written as line feeds. With
`broken` there is no end after the last piece: reading on fails. -/
def ofPieces (encoding : Encoding) (broken : Bool) (pieces : List Bytes) : LineStream :=
  let (answers, arrival) := Arrival.receiveAll encoding {} pieces
  if broken then
    { answers, ending := some .device }
  else
    let (last, ending) := arrival.finish encoding
    { answers := answers ++ last, ending }

def ofStored (encoding : Encoding) (bytes : Bytes) : LineStream :=
  ofPieces encoding false (Bytes.blocks bytes)

example : (ofPieces .ascii false [[0x61, 0x0A], [0xFC, 0x0A], [0x62, 0x0D, 0x63]]).answers =
    [.ok "a\n".toList,
     .error (.undecodable ⟨.ascii, 0, [0xFC], .outOfRange⟩),
     .ok "b\n".toList, .ok "c".toList] := by rfl

end LineStream

end Standoff
