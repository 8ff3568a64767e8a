import Standoff.Proofs.Channel.Request
import Standoff.Proofs.LineStream
import Standoff.Proofs.Result

/-! What comes of requests that are sent one after the other. A tool that reads the stream
line by line gets back the sentences that were accepted, whatever was refused between
them. -/

namespace Standoff

/-! ## Media -/

/-- What requests are written to, while somebody reads at the other end: the characters as they
are, or the bytes of one of the three encodings of `Encoding`. -/
inductive Medium where
  | memory
  | bytes (encoding : Encoding)
  deriving DecidableEq, Repr

namespace Medium

def Item : Medium → Type
  | .memory => Char
  | .bytes _ => UInt8

instance (medium : Medium) : DecidableEq medium.Item :=
  match medium with
  | .memory => inferInstanceAs (DecidableEq Char)
  | .bytes _ => inferInstanceAs (DecidableEq UInt8)

def sink : (medium : Medium) → Sink medium.Item
  | .memory => .memory
  | .bytes encoding => .pipe encoding

def Encodable (medium : Medium) (text : Text) : Prop :=
  ∃ items, medium.sink.encode text = .ok items

def decode : (medium : Medium) → List medium.Item → Except DecodingFault Text
  | .memory => .ok
  | .bytes encoding => encoding.decodeAll

def lineFeed : (medium : Medium) → medium.Item
  | .memory => '\n'
  | .bytes _ => (0x0A : UInt8)

/-! ### Single characters -/

def writable (medium : Medium) (character : Char) : Bool :=
  match medium with
  | .memory => true
  | .bytes encoding => encoding.writable character

def items (medium : Medium) (character : Char) : List medium.Item :=
  match medium with
  | .memory => [character]
  | .bytes encoding => encoding.encodeCharacter character

variable {medium : Medium}

theorem encode_eq_ok_iff {text : Text} {items : List medium.Item} :
    medium.sink.encode text = .ok items ↔
      (∀ character ∈ text, medium.writable character) ∧ items = text.flatMap medium.items := by
  cases medium with
  | memory =>
      have same : text.flatMap (Medium.items .memory) = text := List.flatMap_singleton' text
      rw [same]
      exact ⟨fun equal => ⟨fun _ _ => rfl, (Except.ok.inj equal).symm⟩,
        fun known => congrArg _ known.2.symm⟩
  | bytes encoding => exact Encoding.encode_eq_ok_iff

theorem encodable_iff {text : Text} :
    medium.Encodable text ↔ ∀ character ∈ text, medium.writable character := by
  simp only [Encodable, encode_eq_ok_iff, exists_and_left, exists_eq, and_true]

instance (medium : Medium) (text : Text) : Decidable (medium.Encodable text) :=
  decidable_of_iff (text.all medium.writable) (List.all_eq_true.trans encodable_iff.symm)

theorem items_lineFeed (medium : Medium) : medium.items '\n' = [medium.lineFeed] := by
  cases medium with
  | memory => rfl
  | bytes encoding => exact encoding.encodeCharacter_lineFeed

theorem writable_lineFeed (medium : Medium) : medium.writable '\n' := by
  cases medium with
  | memory => rfl
  | bytes encoding => exact encoding.writable_lineFeed

theorem lineFeed_not_mem_items {character : Char} (writable : medium.writable character)
    (other : character ≠ '\n') : medium.lineFeed ∉ medium.items character := by
  cases medium with
  | memory => exact fun member => other (List.mem_singleton.mp member).symm
  | bytes encoding => exact Encoding.lineFeed_not_mem_encodeCharacter writable other

theorem decode_flatMap_items {text : Text}
    (writable : ∀ character ∈ text, medium.writable character) :
    medium.decode (text.flatMap medium.items) = .ok text := by
  cases medium with
  | memory => exact congrArg _ (List.flatMap_singleton' text)
  | bytes encoding =>
      exact Encoding.decodeAll_encode (Encoding.encode_eq_ok_iff.mpr ⟨writable, rfl⟩)

end Medium

/-! ## Reading up to marks -/

/-- The parts of a list that end at a mark, and what is left behind the last of them. -/
def endedAt {α : Type} [DecidableEq α] (mark : α) (list : List α) : List (List α) × List α :=
  ((list.splitOn mark).dropLast, (list.splitOn mark).getLastD [])

theorem splitOn_marked {α : Type} [DecidableEq α] {mark : α} {part : List α}
    (unmarked : mark ∉ part) (rest : List α) :
    (part ++ mark :: rest).splitOn mark = part :: rest.splitOn mark := by
  have whole : part.splitOnP (· == mark) = [part] := by
    apply List.splitOnP_eq_singleton
    intro member inPart
    exact beq_false_of_ne fun equal => unmarked (equal ▸ inPart)
  have cut : (part ++ mark :: rest).splitOnP (· == mark) =
      part.splitOnP (· == mark) ++ rest.splitOnP (· == mark) :=
    List.splitOnP_append_cons part rest (beq_self_eq_true mark)
  rw [List.splitOn, cut, whole]
  rfl

theorem endedAt_flatMap {α β : Type} [DecidableEq α] {mark : α} {list : List β}
    {part : β → List α} (unmarked : ∀ member ∈ list, mark ∉ part member) :
    endedAt mark (list.flatMap fun member => part member ++ [mark]) = (list.map part, []) := by
  have split : (list.flatMap fun member => part member ++ [mark]).splitOn mark =
      list.map part ++ [[]] := by
    induction list with
    | nil => exact List.splitOn_nil mark
    | cons member rest induction =>
        rw [List.forall_mem_cons] at unmarked
        rw [List.flatMap_cons, List.append_assoc, List.singleton_append,
          splitOn_marked unmarked.1, induction unmarked.2, List.map_cons, List.cons_append]
  rw [endedAt, split, List.dropLast_concat, List.getLastD_concat]

/-- What a tool has read of a stream. -/
structure Reading (α : Type) where
  sentences : List (List Text)
  unended : List Text
  unfinished : List α

/-- Read line by line. Each empty line ends a sentence. -/
def Medium.read (medium : Medium) (stream : List medium.Item) :
    Except DecodingFault (Reading medium.Item) :=
  let (lines, unfinished) := endedAt medium.lineFeed stream
  (lines.mapM medium.decode).map fun lines =>
    let (sentences, unended) := endedAt [] lines
    { sentences, unended, unfinished }

/-! ## One request -/

section

variable {medium : Medium}

def Medium.Accepts (medium : Medium) (forms : List Text) : Prop :=
  ∀ form ∈ forms, Sendable form ∧ medium.Encodable form

instance (medium : Medium) (forms : List Text) : Decidable (medium.Accepts forms) := by
  unfold Medium.Accepts
  infer_instance

def Medium.requestItems (medium : Medium) (forms : List Text) : List medium.Item :=
  (requestText forms).flatMap medium.items

theorem Medium.encode_requestText_iff {forms : List Text} {items : List medium.Item} :
    medium.sink.encode (requestText forms) = .ok items ↔
      (∀ form ∈ forms, medium.Encodable form) ∧ items = medium.requestItems forms := by
  have characters : (∀ character ∈ requestText forms, medium.writable character) ↔
      ∀ form ∈ forms, ∀ character ∈ form, medium.writable character :=
    forall_mem_requestText_iff medium.writable_lineFeed
  simp only [encode_eq_ok_iff, characters, encodable_iff, requestItems]

def Medium.sinkWith (medium : Medium) (written : List medium.Item) : Sink medium.Item :=
  { medium.sink with written }

theorem Medium.put_eq (medium : Medium) (written : List medium.Item) (text : Text) :
    (medium.sinkWith written).put text =
      match medium.sink.encode text with
      | .error fault => (.error (.unencodable fault), medium.sinkWith written)
      | .ok items => (.ok (), medium.sinkWith (written ++ items)) := by
  have opened : (medium.sinkWith written).closed = false := by cases medium <;> rfl
  have lasting : (medium.sinkWith written).breaksAfter = none := by cases medium <;> rfl
  have same : (medium.sinkWith written).encode text = medium.sink.encode text := rfl
  rw [Sink.put_of_working opened lasting, same]
  cases medium.sink.encode text <;> rfl

/-- A sentence is accepted and written as a whole, or it leaves the sink as it is. -/
theorem Medium.send_cases {written : List medium.Item} {writer : RequestWriter medium.Item}
    (sink : writer.sink = medium.sinkWith written) (forms : List Text) :
    (medium.Accepts forms ∧ (writer.send forms).1 = .ok () ∧
      (writer.send forms).2.sink = medium.sinkWith (written ++ medium.requestItems forms)) ∨
    (¬ medium.Accepts forms ∧ (∃ cause, (writer.send forms).1 = .error (.protocol cause)) ∧
      (writer.send forms).2.sink = writer.sink) := by
  unfold RequestWriter.send
  cases found : forms.find? fun form => ¬ Sendable form with
  | some form =>
      have refused := List.find?_some found
      rw [decide_eq_true_eq] at refused
      have member := List.mem_of_find?_eq_some found
      exact Or.inr ⟨fun accepts => refused (accepts form member).1, ⟨_, rfl⟩, rfl⟩
  | none =>
      have sendable : ∀ form ∈ forms, Sendable form := by
        simpa using List.find?_eq_none.mp found
      simp only [sink, medium.put_eq]
      cases encoded : medium.sink.encode (requestText forms) with
      | error fault =>
          refine Or.inr ⟨fun accepts => ?_, ⟨_, rfl⟩, rfl⟩
          have encodable : ∀ form ∈ forms, medium.Encodable form :=
            fun form member => (accepts form member).2
          rw [encode_requestText_iff.mpr ⟨encodable, rfl⟩] at encoded
          cases encoded
      | ok items =>
          rcases encode_requestText_iff.mp encoded with ⟨encodable, rfl⟩
          exact Or.inl ⟨fun form member => ⟨sendable form member, encodable form member⟩, rfl, rfl⟩

/-! ## All requests -/

/-- Send sentences one after the other, whether or not they are accepted. -/
def RequestWriter.sendAll {α : Type} (writer : RequestWriter α) (sentences : List (List Text)) :
    RequestWriter α :=
  sentences.foldl (fun writer forms => (writer.send forms).2) writer

def Medium.accepted (medium : Medium) (asked : List (List Text)) : List (List Text) :=
  asked.filter fun forms => medium.Accepts forms

structure Medium.Sent (medium : Medium) (asked : List (List Text))
    (writer : RequestWriter medium.Item) : Prop where
  sink : writer.sink =
    medium.sinkWith ((medium.accepted asked).flatMap medium.requestItems)
  lastSent : writer.lastSent = lastSendable asked

theorem Medium.accepted_concat (medium : Medium) (asked : List (List Text))
    (forms : List Text) :
    medium.accepted (asked ++ [forms]) =
      medium.accepted asked ++ if medium.Accepts forms then [forms] else [] := by
  rw [accepted, List.filter_append]
  by_cases accepts : medium.Accepts forms <;> simp [accepts, accepted]

theorem Medium.Sent.send {asked : List (List Text)} {writer : RequestWriter medium.Item}
    (sent : medium.Sent asked writer) (forms : List Text) :
    medium.Sent (asked ++ [forms]) (writer.send forms).2 where
  sink := by
    rw [accepted_concat]
    rcases send_cases sent.sink forms with ⟨accepts, _, sink⟩ | ⟨refused, _, sink⟩
    · rw [sink, if_pos accepts, List.flatMap_append, List.flatMap_singleton]
    · rw [sink, if_neg refused, List.append_nil, sent.sink]
  lastSent := by rw [lastSendable_concat, ← sent.lastSent, writer.lastSent_send]

theorem Medium.Sent.sendAll {asked : List (List Text)} {writer : RequestWriter medium.Item}
    (sent : medium.Sent asked writer) (sentences : List (List Text)) :
    medium.Sent (asked ++ sentences) (writer.sendAll sentences) := by
  induction sentences generalizing asked writer with
  | nil => simpa [RequestWriter.sendAll] using sent
  | cons forms rest induction =>
      have later := induction (sent.send forms)
      rw [List.append_assoc, List.singleton_append] at later
      exact later

def Medium.writer (medium : Medium) : RequestWriter medium.Item := { sink := medium.sink }

theorem Medium.sent_writer (medium : Medium) : medium.Sent [] medium.writer := by
  cases medium <;> exact ⟨rfl, rfl⟩

/-! ## What a tool reads -/

def requestLines (forms : List Text) : List Text := forms ++ [[]]

theorem requestText_eq (forms : List Text) :
    requestText forms = (requestLines forms).flatMap fun line => line ++ ['\n'] := by
  rw [requestText, requestLines, List.flatMap_append]
  rfl

theorem Medium.requestItems_eq (medium : Medium) (forms : List Text) :
    medium.requestItems forms = (requestLines forms).flatMap fun line =>
      line.flatMap medium.items ++ [medium.lineFeed] := by
  rw [requestItems, requestText_eq, List.flatMap_assoc]
  simp only [List.flatMap_append, List.flatMap_singleton, items_lineFeed]

theorem Medium.read_requests {sentences : List (List Text)}
    (accepts : ∀ forms ∈ sentences, medium.Accepts forms) :
    medium.read (sentences.flatMap medium.requestItems) = .ok ⟨sentences, [], []⟩ := by
  have known : ∀ line ∈ sentences.flatMap requestLines,
      '\n' ∉ line ∧ ∀ character ∈ line, medium.writable character := by
    intro line member
    rcases List.mem_flatMap.mp member with ⟨forms, inSentences, inLines⟩
    rcases List.mem_append.mp inLines with inForms | inEnd
    · have accepted := accepts forms inSentences line inForms
      exact ⟨accepted.1.2.1, encodable_iff.mp accepted.2⟩
    · rw [List.mem_singleton.mp inEnd]
      exact ⟨List.not_mem_nil, nofun⟩
  have unmarked : ∀ line ∈ sentences.flatMap requestLines,
      medium.lineFeed ∉ line.flatMap medium.items := by
    intro line member inItems
    rcases List.mem_flatMap.mp inItems with ⟨character, inLine, inCharacter⟩
    have other : character ≠ '\n' := fun equal => (known line member).1 (equal ▸ inLine)
    exact lineFeed_not_mem_items ((known line member).2 character inLine) other inCharacter
  have decoded : ((sentences.flatMap requestLines).map fun line =>
      line.flatMap medium.items).mapM medium.decode = .ok (sentences.flatMap requestLines) := by
    rw [Result.mapM_eq_ok_iff, List.forall₂_map_left_iff, List.forall₂_same]
    exact fun line member => decode_flatMap_items (known line member).2
  have nonempty : ∀ forms ∈ sentences, [] ∉ forms :=
    fun forms member inForms => (accepts forms member [] inForms).1.1 rfl
  have stream : sentences.flatMap medium.requestItems =
      (sentences.flatMap requestLines).flatMap fun line =>
        line.flatMap medium.items ++ [medium.lineFeed] := by
    rw [List.flatMap_assoc]
    exact List.flatMap_congr fun forms _ => medium.requestItems_eq forms
  have ended : endedAt [] (sentences.flatMap requestLines) = (sentences.map id, []) :=
    endedAt_flatMap nonempty
  rw [read, stream, endedAt_flatMap unmarked]
  simp only [decoded, Except.map, ended, List.map_id]

theorem Medium.accepts_of_accepted {asked : List (List Text)} {forms : List Text}
    (member : forms ∈ medium.accepted asked) : medium.Accepts forms := by
  simpa using (List.mem_filter.mp member).2

theorem Medium.accepts_iff {forms : List Text} :
    medium.Accepts forms ↔
      ∀ form ∈ forms, form ≠ [] ∧ '\n' ∉ form ∧ '\r' ∉ form ∧ medium.Encodable form := by
  simp only [Accepts, Sendable, and_assoc]

/-- A request succeeds just when each of its forms can be sent, and it leaves nothing
behind when it fails. What was written is made up of the requests that succeeded, and a
tool reads the sentences of these and no others. The last sentence is remembered if its
forms could be sent, whether or not they could be encoded. -/
theorem sendAll_framed (medium : Medium) (asked : List (List Text)) :
    let writer := medium.writer.sendAll asked
    (∀ forms, ((writer.send forms).1 = .ok () ↔
        ∀ form ∈ forms, form ≠ [] ∧ '\n' ∉ form ∧ '\r' ∉ form ∧ medium.Encodable form) ∧
      ((writer.send forms).1 ≠ .ok () →
        (∃ cause, (writer.send forms).1 = .error (.protocol cause)) ∧
        (writer.send forms).2.sink = writer.sink)) ∧
    (∃ requests : List (List medium.Item),
      List.Forall₂ (fun forms items => medium.sink.encode (requestText forms) = .ok items)
        (medium.accepted asked) requests ∧
      writer.sink.written = requests.flatten) ∧
    medium.read writer.sink.written = .ok ⟨medium.accepted asked, [], []⟩ ∧
    (∀ others, (medium.writer.sendAll others).sink.written = writer.sink.written →
      medium.accepted others = medium.accepted asked) ∧
    writer.lastSent = lastSendable asked := by
  intro writer
  have sent (sentences : List (List Text)) :
      medium.Sent sentences (medium.writer.sendAll sentences) :=
    medium.sent_writer.sendAll sentences
  have written (sentences : List (List Text)) :
      (medium.writer.sendAll sentences).sink.written =
        (medium.accepted sentences).flatMap medium.requestItems := by
    rw [(sent sentences).sink]
    rfl
  have readBack (sentences : List (List Text)) :
      medium.read (medium.writer.sendAll sentences).sink.written =
        .ok ⟨medium.accepted sentences, [], []⟩ := by
    rw [written]
    exact Medium.read_requests fun forms member => Medium.accepts_of_accepted member
  refine ⟨?_, ?_, readBack asked, ?_, (sent asked).lastSent⟩
  · intro forms
    rw [← Medium.accepts_iff]
    rcases Medium.send_cases (sent asked).sink forms with
      ⟨accepts, succeeded, _⟩ | ⟨refused, ⟨cause, failed⟩, same⟩
    · exact ⟨iff_of_true succeeded accepts, fun notOk => absurd succeeded notOk⟩
    · refine ⟨iff_of_false ?_ refused, fun _ => ⟨⟨cause, failed⟩, same⟩⟩
      rw [failed]
      exact nofun
  · refine ⟨(medium.accepted asked).map medium.requestItems, ?_, ?_⟩
    · rw [List.forall₂_map_right_iff, List.forall₂_same]
      intro forms member
      exact Medium.encode_requestText_iff.mpr
        ⟨fun form inForms => (Medium.accepts_of_accepted member form inForms).2, rfl⟩
    · rw [written, List.flatMap_def]
  · intro others same
    have again := readBack others
    rw [same, readBack asked] at again
    exact (congrArg Reading.sentences (Except.ok.inj again)).symm

end

end Standoff
