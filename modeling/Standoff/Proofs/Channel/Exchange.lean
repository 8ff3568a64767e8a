import Standoff.Channel.Tool
import Standoff.Proofs.Channel.Framing
import Standoff.Proofs.Channel.Request

/-! When a tool answers a request. Nothing is answered without a block of answers for the
forms that were sent, and a request leaves the tool as ready as it was, with the answers
behind the block. -/

namespace Standoff

/-- A form that a tool can be sent in an encoding. -/
def Transmissible (encoding : Encoding) (form : Text) : Prop :=
  Sendable form ∧ ∀ character ∈ form, encoding.writable character

namespace Tool

/-- A tool with open pipes in an encoding, the number of requests that still reach its
program if that is limited, and the answers that it has yet to give. -/
structure Ready (encoding : Encoding) (remaining : Option Nat)
    (answers : List (Except ReadFault Text)) (tool : Tool) : Prop where
  encode : tool.writer.sink.encode = encoding.encode
  opened : tool.writer.sink.closed = false
  pipe : tool.writer.sink.breaksAfter = remaining
  awaits : tool.reader.Awaits ['\t'] 1 answers

/-! ## The start -/

section

variable {program : Program} {command : List Text} {name : Text} {options : ToolOptions}

theorem exists_start {encoding : Encoding} (allowed : program.startFault = none)
    (known : Encoding.named name = .ok encoding) (nonempty : command ≠ []) :
    ∃ tool, start program command name options = .ok tool := by
  have unrefused (stage : StartStage) : program.refusal stage = none := by
    rw [Program.refusal, allowed, Option.filter_none]
  cases command with
  | nil => exact absurd rfl nonempty
  | cons first rest =>
      simp only [start, unrefused, known]
      exact ⟨_, rfl⟩

theorem closed_ofPieces (encoding : Encoding) (broken : Bool) (pieces : List Bytes) :
    (LineStream.ofPieces encoding broken pieces).closed = false := by
  unfold LineStream.ofPieces
  cases broken <;> rfl

theorem ready_of_start {tool : Tool} {period : Option Int}
    (started : start program command name { gracePeriod := period } = .ok tool) :
    ∃ encoding, Encoding.named name = .ok encoding ∧
      tool.Ready encoding program.inputBreaksAfter
        (LineStream.ofPieces encoding program.failsAtEnd program.output).answers := by
  rcases eq_of_start started with ⟨encoding, known, rfl⟩
  exact ⟨encoding, known, rfl, rfl, rfl, closed_ofPieces _ _ _, rfl, rfl, rfl⟩

end

/-! ## Requests -/

section

variable {encoding : Encoding} {remaining : Option Nat}
  {answers rest : List (Except ReadFault Text)} {tool after : Tool} {forms tags : List Text}

theorem Ready.send_eq_ok_iff (ready : Ready encoding remaining answers tool) :
    (∃ writer, tool.writer.send forms = (.ok (), writer)) ↔
      remaining ≠ some 0 ∧ ∀ form ∈ forms, Transmissible encoding form := by
  simp only [RequestWriter.send_eq_ok_iff, Sink.put_eq_ok_iff, ready.opened, ready.pipe,
    ready.encode]
  have encodes := @encode_requestText_iff encoding forms
  constructor
  · rintro ⟨_, sendable, _, ⟨_, working, bytes, encoded, _⟩, _⟩
    have writable := encodes.mp ⟨bytes, encoded⟩
    exact ⟨working, fun form member => ⟨sendable form member, writable form member⟩⟩
  · rintro ⟨working, transmissible⟩
    rcases encodes.mpr fun form member => (transmissible form member).2 with ⟨bytes, encoded⟩
    exact ⟨_, fun form member => (transmissible form member).1, _,
      ⟨trivial, working, bytes, encoded, rfl⟩, rfl⟩

/-- What is sent changes nothing but what has been written and what can be. -/
theorem Ready.send (ready : Ready encoding remaining answers tool)
    {writer : RequestWriter UInt8} (sent : tool.writer.send forms = (.ok (), writer)) :
    Ready encoding (remaining.map (· - 1)) answers { tool with writer } := by
  rcases RequestWriter.send_eq_ok_iff.mp sent with ⟨_, sink, put, rfl⟩
  rcases Sink.put_eq_ok_iff.mp put with ⟨_, _, bytes, _, rfl⟩
  exact ⟨ready.encode, ready.opened, congrArg (Option.map (· - 1)) ready.pipe, ready.awaits⟩

theorem request_of_block (ready : Ready encoding remaining answers tool)
    (working : remaining ≠ some 0)
    (transmissible : ∀ form ∈ forms, Transmissible encoding form)
    (block : Block ['\t'] 1 answers tags rest) (count : tags.length = forms.length) :
    ∃ after, tool.request forms = (.ok tags, after) ∧
      Ready encoding (remaining.map (· - 1)) rest after := by
  rcases ready.send_eq_ok_iff.mpr ⟨working, transmissible⟩ with ⟨writer, sent⟩
  have sentReady := ready.send sent
  rcases ResponseReader.receive_of_block (by simp) ready.awaits block with
    ⟨reader, received, awaits⟩
  refine ⟨{ tool with writer, reader }, ?_, ⟨sentReady.encode, sentReady.opened,
    sentReady.pipe, awaits⟩⟩
  simp only [request, Tool.send, sent, receive, ← count, received]

theorem block_of_request (ready : Ready encoding remaining answers tool)
    (requested : tool.request forms = (.ok tags, after)) :
    remaining ≠ some 0 ∧ (∀ form ∈ forms, Transmissible encoding form) ∧
      ∃ rest, Block ['\t'] 1 answers tags rest ∧ tags.length = forms.length ∧
        Ready encoding (remaining.map (· - 1)) rest after := by
  unfold request at requested
  rcases sending : tool.send forms with ⟨result, next⟩
  rw [sending] at requested
  cases result with
  | error error => cases requested
  | ok done =>
      unfold Tool.send at sending
      rcases sent : tool.writer.send forms with ⟨writerResult, writer⟩
      rw [sent] at sending
      cases sending
      have sentReady := ready.send sent
      rcases ready.send_eq_ok_iff.mp ⟨writer, sent⟩ with ⟨working, transmissible⟩
      rcases received : tool.reader.receive forms.length with ⟨readerResult, reader⟩
      simp only [receive, received, Prod.mk.injEq] at requested
      rcases requested with ⟨rfl, rfl⟩
      rcases ResponseReader.block_of_receive (by simp) ready.awaits received with
        ⟨rest, block, count, awaits⟩
      exact ⟨working, transmissible, rest, block, count, sentReady.encode, sentReady.opened,
        sentReady.pipe, awaits⟩

end

end Tool

end Standoff
