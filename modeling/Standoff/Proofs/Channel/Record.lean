import Standoff.Proofs.Channel.Exchange
import Standoff.Proofs.Channel.LifeCycle

/-! What a tool remembers of the requests to it: the last sentence that could be sent as
it is, and the last line in which there was something to be seen. It remembers them for
requests that fail as well as for those that are answered. -/

namespace Standoff

/-! ## The last line -/

theorem ResponseReader.HasRead.receive {separator : Text} {field : Int}
    {seen answers : List (Except ReadFault Text)} {reader : ResponseReader}
    (read : HasRead separator field seen answers reader) (nonempty : separator ≠ [])
    (count : Nat) :
    ∃ taken, HasRead separator field (seen ++ answers.take taken) (answers.drop taken)
      (reader.receive count).2 := by
  rcases exists_reads_of_receive nonempty read.toAwaits count with ⟨taken, _, after⟩
  rw [after]
  exact ⟨taken, read.reads taken⟩

/-! ## Tools -/

namespace Tool

/-- A tool that has been asked for some sentences, and the answers from which it has read
so far. -/
structure Remembers (asked : List (List Text)) (seen answers : List (Except ReadFault Text))
    (tool : Tool) : Prop where
  lastSent : tool.writer.lastSent = lastSendable asked
  hasRead : tool.reader.HasRead ['\t'] 1 seen answers

section

variable {asked : List (List Text)} {seen answers : List (Except ReadFault Text)} {tool : Tool}

theorem Remembers.send (remembers : Remembers asked seen answers tool) (forms : List Text) :
    Remembers (asked ++ [forms]) seen answers (tool.send forms).2 where
  lastSent := by
    rw [lastSendable_concat, ← remembers.lastSent]
    exact tool.writer.lastSent_send forms
  hasRead := remembers.hasRead

theorem Remembers.request (remembers : Remembers asked seen answers tool) (forms : List Text) :
    ∃ taken, Remembers (asked ++ [forms]) (seen ++ answers.take taken) (answers.drop taken)
      (tool.request forms).2 := by
  have sent := remembers.send forms
  unfold Tool.request
  rcases sending : tool.send forms with ⟨error | ⟨⟩, next⟩
  · rw [sending] at sent
    exact ⟨0, by simpa using sent⟩
  · rw [sending] at sent
    rcases sent.hasRead.receive (by decide) forms.length with ⟨taken, read⟩
    exact ⟨taken, sent.lastSent, read⟩

end

/-! ## Requests one after the other -/

/-- All of some requests are answered, one after the other. -/
inductive Answered : Tool → List (List Text) → Tool → Prop
  | nil {tool : Tool} : Answered tool [] tool
  | cons {tool next after : Tool} {forms tags : List Text} {rest : List (List Text)}
      (answered : tool.request forms = (.ok tags, next)) (later : Answered next rest after) :
      Answered tool (forms :: rest) after

/-- One of some requests fails, and no other is made. The sentences that were asked for
are those up to this one. -/
inductive BrokenOff (error : ChannelError) (after : Tool) :
    Tool → List (List Text) → List (List Text) → Prop
  | here {tool : Tool} {forms : List Text} {rest : List (List Text)}
      (failed : tool.request forms = (.error error, after)) :
      BrokenOff error after tool (forms :: rest) [forms]
  | later {tool next : Tool} {forms tags : List Text} {rest asked : List (List Text)}
      (answered : tool.request forms = (.ok tags, next))
      (behind : BrokenOff error after next rest asked) :
      BrokenOff error after tool (forms :: rest) (forms :: asked)

theorem life_of_request {tool next : Tool} {forms : List Text}
    {result : Except ChannelError (List Text)} (requested : tool.request forms = (result, next)) :
    next.life = tool.life := by
  have kept := tool.life_request forms
  rw [requested] at kept
  exact kept

theorem Answered.life {tool after : Tool} {sentences : List (List Text)}
    (answered : Answered tool sentences after) : after.life = tool.life := by
  induction answered with
  | nil => rfl
  | cons here _ induction => exact induction.trans (life_of_request here)

section

variable {error : ChannelError} {tool after : Tool} {sentences asked : List (List Text)}

theorem BrokenOff.life (broken : BrokenOff error after tool sentences asked) :
    after.life = tool.life := by
  induction broken with
  | here failed => exact life_of_request failed
  | later answered _ induction => exact induction.trans (life_of_request answered)

theorem BrokenOff.remembers {before : List (List Text)} {seen answers : List (Except ReadFault Text)}
    (broken : BrokenOff error after tool sentences asked)
    (remembers : Remembers before seen answers tool) :
    ∃ taken, Remembers (before ++ asked) (seen ++ answers.take taken) (answers.drop taken)
      after := by
  -- The sentences asked for and the answers read grow with each request, up to the one
  -- that fails.
  induction broken generalizing before seen answers with
  | @here _ forms _ failed =>
      have step := remembers.request forms
      rw [failed] at step
      exact step
  | @later _ _ forms _ _ _ answered _ induction =>
      rcases remembers.request forms with ⟨first, here⟩
      rw [answered] at here
      rcases induction here with ⟨second, later⟩
      rw [List.append_assoc, List.append_assoc, ← List.take_add, List.drop_drop] at later
      exact ⟨first + second, later⟩

end

theorem remembers_of_start {program : Program} {command : List Text} {name : Text}
    {period : Option Int} {tool : Tool}
    (started : start program command name { gracePeriod := period } = .ok tool) :
    Remembers [] [] tool.reader.stream.answers tool := by
  rcases ready_of_start started with ⟨_, _, ready⟩
  rcases eq_of_start started with ⟨_, _, rfl⟩
  rw [ready.awaits.answers]
  exact ⟨rfl, ready.awaits, rfl⟩

end Tool

end Standoff
