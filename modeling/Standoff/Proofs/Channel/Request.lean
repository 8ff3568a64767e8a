import Standoff.Channel.Request

/-! When a request is sent, and what it changes. -/

namespace Standoff

variable {α : Type}

/-! ## Sinks -/

theorem Sink.put_eq_ok_iff {sink after : Sink α} {text : Text} :
    sink.put text = (.ok (), after) ↔ sink.closed = false ∧ sink.breaksAfter ≠ some 0 ∧
      ∃ units, sink.encode text = .ok units ∧
        after = { sink with
          written := sink.written ++ units
          breaksAfter := sink.breaksAfter.map (· - 1) } := by
  unfold put
  cases closed : sink.closed with
  | true => simp
  | false =>
      cases encoded : sink.encode text with
      | error fault => simp
      | ok units => by_cases broken : sink.breaksAfter = some 0 <;> simp [broken, eq_comm]

/-- While somebody reads at the other end, only what cannot be encoded is refused. -/
theorem Sink.put_of_working {sink : Sink α} (opened : sink.closed = false)
    (lasting : sink.breaksAfter = none) (text : Text) :
    sink.put text =
      match sink.encode text with
      | .error fault => (.error (.unencodable fault), sink)
      | .ok units => (.ok (), { sink with written := sink.written ++ units }) := by
  rcases sink with ⟨encode, breaksAfter, written, unsent, closed⟩
  cases opened
  cases lasting
  unfold put
  cases encode text <;> rfl

/-! ## Requests -/

/-- A sentence is refused as a whole for one of its forms, or it is put into the sink and
remembered, whether that succeeds or not. -/
theorem RequestWriter.send_cases (writer : RequestWriter α) (forms : List Text) :
    let put := writer.sink.put (requestText forms)
    (∃ form ∈ forms, ¬ Sendable form ∧
      writer.send forms = (.error (.protocol (.unsendable form)), writer)) ∨
    ((∀ form ∈ forms, Sendable form) ∧ ∃ result, writer.send forms =
        (result, { sink := put.2, lastSent := some ([' '].intercalate forms) }) ∧
      (result = .ok () ↔ put.1 = .ok ())) := by
  unfold send
  cases found : forms.find? fun form => ¬ Sendable form with
  | some form =>
      have refused := List.find?_some found
      rw [decide_eq_true_eq] at refused
      exact Or.inl ⟨form, List.mem_of_find?_eq_some found, refused, rfl⟩
  | none =>
      have sendable : ∀ form ∈ forms, Sendable form := by
        simpa using List.find?_eq_none.mp found
      rcases writer.sink.put (requestText forms) with ⟨fault | ⟨⟩, sink⟩
      · cases fault <;> exact Or.inr ⟨sendable, _, rfl, by simp⟩
      · exact Or.inr ⟨sendable, _, rfl, by simp⟩

theorem RequestWriter.send_eq_ok_iff {writer after : RequestWriter α} {forms : List Text} :
    writer.send forms = (.ok (), after) ↔ (∀ form ∈ forms, Sendable form) ∧
      ∃ sink, writer.sink.put (requestText forms) = (.ok (), sink) ∧
        after = { sink, lastSent := some ([' '].intercalate forms) } := by
  rcases writer.send_cases forms with
    ⟨form, member, refused, sent⟩ | ⟨sendable, result, sent, delivered⟩
  · rw [sent]
    exact ⟨nofun, fun accepted => absurd (accepted.1 form member) refused⟩
  · rw [sent, Prod.mk.injEq, delivered]
    constructor
    · rintro ⟨put, rfl⟩
      exact ⟨sendable, _, Prod.ext put rfl, rfl⟩
    · rintro ⟨_, sink, put, rfl⟩
      rw [put]
      exact ⟨rfl, rfl⟩

theorem forall_mem_requestText_iff {property : Char → Prop} (lineFeed : property '\n')
    {forms : List Text} :
    (∀ character ∈ requestText forms, property character) ↔
      ∀ form ∈ forms, ∀ character ∈ form, property character := by
  simp only [requestText, List.mem_append, List.mem_flatMap, List.mem_singleton]
  constructor
  · intro all form member character inForm
    exact all character (Or.inl ⟨form, member, Or.inl inForm⟩)
  · rintro all character (⟨form, member, inForm | rfl⟩ | rfl)
    · exact all form member character inForm
    · exact lineFeed
    · exact lineFeed

theorem encode_requestText_iff {encoding : Encoding} {forms : List Text} :
    (∃ bytes, encoding.encode (requestText forms) = .ok bytes) ↔
      ∀ form ∈ forms, ∀ character ∈ form, encoding.writable character := by
  have lineFeed : encoding.writable '\n' := by cases encoding <;> rfl
  simp only [Encoding.encode_eq_ok_iff, exists_and_left, exists_eq, and_true]
  exact forall_mem_requestText_iff lineFeed

/-! ## The last sentence -/

/-- The last of some sentences whose forms can all be sent. -/
def lastSendable (sentences : List (List Text)) : Option Text :=
  (sentences.filter fun forms => ∀ form ∈ forms, Sendable form).getLast?.map [' '].intercalate

example : lastSendable [["Hi".toList, "Joe".toList], [[], "you".toList]] =
    some "Hi Joe".toList := by decide

theorem lastSendable_concat (sentences : List (List Text)) (forms : List Text) :
    lastSendable (sentences ++ [forms]) =
      if ∀ form ∈ forms, Sendable form then some ([' '].intercalate forms)
      else lastSendable sentences := by
  rw [lastSendable, List.filter_append]
  by_cases sendable : ∀ form ∈ forms, Sendable form
  · rw [if_pos sendable, List.filter_cons_of_pos (by simpa using sendable), List.filter_nil,
      List.getLast?_concat, Option.map_some]
  · rw [if_neg sendable, List.filter_cons_of_neg (by simpa using sendable), List.filter_nil,
      List.append_nil, lastSendable]

theorem RequestWriter.lastSent_send (writer : RequestWriter α) (forms : List Text) :
    (writer.send forms).2.lastSent =
      if ∀ form ∈ forms, Sendable form then some ([' '].intercalate forms)
      else writer.lastSent := by
  rcases writer.send_cases forms with ⟨form, member, refused, sent⟩ | ⟨sendable, _, sent, _⟩
  · rw [sent, if_neg fun sendable => refused (sendable form member)]
  · rw [sent, if_pos sendable]

end Standoff
