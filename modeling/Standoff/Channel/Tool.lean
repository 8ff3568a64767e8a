import Standoff.Channel.Request
import Standoff.Channel.Response
import Standoff.Notice

/-! Tools: external programs that tag sentences, from their start to their end.

A tool belongs to the one who started it. Closing it closes the pipes to it and
brings it to an end, first by asking, then by force; closing it again does
nothing. -/

namespace Standoff

/-! ## Programs -/

/-- What a program does about its end. One that has exited has ended by itself when somebody
looks for the first time, and a stubborn one does not end when it is asked to. -/
inductive Conduct where
  | compliant
  | exited
  | stubborn
  deriving DecidableEq, Repr

inductive StartStage where
  | pipes
  | program
  deriving DecidableEq, Repr

structure StartFault where
  stage : StartStage
  number : Int
  reason : Text
  file : Option Text := none
  deriving DecidableEq, Repr

def StartFault.message (fault : StartFault) : String :=
  "[Errno " ++ toString fault.number ++ "] " ++ String.ofList fault.reason ++
    match fault.file with
    | none => ""
    | some file => ": " ++ String.ofList (Text.quoted file)

/-- A program as its owner meets it: all that it will ever answer, in the pieces in which it
arrives, and how it behaves. -/
structure Program where
  output : List Bytes := []
  failsAtEnd : Bool := false
  /-- The number of requests that arrive before the program stops reading. -/
  inputBreaksAfter : Option Nat := none
  startFault : Option StartFault := none
  conduct : Conduct := .compliant
  process : Nat := 0

def Program.refusal (program : Program) (stage : StartStage) : Option StartFault :=
  program.startFault.filter (·.stage = stage)

inductive Event where
  | start (command : List Text) (encoding : Text)
  | terminate
  | wait (seconds : Option Int)
  | kill
  deriving DecidableEq, Repr

inductive StartError where
  | refused (command : List Text) (fault : StartFault)
  | encoding (error : Encoding.NameError)
  | unnamed
  deriving DecidableEq, Repr

/-- Whether there were pipes already when the start failed. -/
def StartError.piped : StartError → Bool
  | .refused _ fault => fault.stage = .program
  | .encoding _ | .unnamed => true

def StartError.message : StartError → String
  | .refused command fault =>
      "Unable to start [" ++ String.ofList ([' '].intercalate command) ++ "]: " ++
        fault.message
  | .encoding error => error.message
  | .unnamed => "The command is empty"

/-! ## Tools -/

structure ToolOptions where
  separator : Option Text := some ['\t']
  field : Int := 1
  /-- Seconds, without limit if nothing is given. -/
  gracePeriod : Option Int := some 5
  deriving DecidableEq, Repr

structure Tool where
  command : List Text
  program : Program
  gracePeriod : Option Int
  writer : RequestWriter UInt8
  reader : ResponseReader
  events : List Event
  ended : Bool
  released : Bool := false
  /-- The owner waits until the program ends by itself. -/
  waiting : Bool := false
  notices : List Notice := []

namespace Tool

def name (tool : Tool) : Text := tool.command.headD []

def record (tool : Tool) (event : Event) : Tool :=
  { tool with events := tool.events ++ [event] }

def report (tool : Tool) (notice : Notice) : Tool :=
  { tool with notices := tool.notices ++ [notice] }

def written (tool : Tool) : Bytes := tool.writer.sink.written

def startEvents (command : List Text) (encoding : Text) : List Event :=
  [.start command encoding]

/-- Start a program with pipes in an encoding. The pipes are fitted with the encoding before
the program is run, so that it comes out first if the encoding is none of `Encoding`. -/
def start (program : Program) (command : List Text) (encoding : Text)
    (options : ToolOptions) : Except StartError Tool :=
  match program.refusal .pipes, Encoding.named encoding, command, program.refusal .program with
  | some fault, _, _, _ => .error (.refused command fault)
  | none, .error error, _, _ => .error (.encoding error)
  | none, .ok _, [], _ => .error .unnamed
  | none, .ok _, _ :: _, some fault => .error (.refused command fault)
  | none, .ok known, name :: _, none => .ok {
      command
      program
      gracePeriod := options.gracePeriod
      writer := { sink := Sink.pipe known program.inputBreaksAfter }
      reader := {
        stream := LineStream.ofPieces known program.failsAtEnd program.output
        separator := options.separator
        field := options.field }
      events := startEvents command encoding
      ended := program.conduct == .exited
      notices := [.started name program.process] }

theorem eq_of_start {program : Program} {command : List Text} {name : Text}
    {options : ToolOptions} {tool : Tool}
    (started : start program command name options = .ok tool) :
    ∃ encoding, Encoding.named name = .ok encoding ∧ tool = {
      command
      program
      gracePeriod := options.gracePeriod
      writer := { sink := Sink.pipe encoding program.inputBreaksAfter }
      reader := {
        stream := LineStream.ofPieces encoding program.failsAtEnd program.output
        separator := options.separator
        field := options.field }
      events := startEvents command name
      ended := program.conduct == .exited
      notices := [.started (command.headD []) program.process] } := by
  unfold start at started
  split at started
  · cases started
  · cases started
  · cases started
  · cases started
  · rename_i encoding first rest _ known _
    exact ⟨encoding, known, (Except.ok.inj started).symm⟩

def send (tool : Tool) (forms : List Text) : Except ChannelError Unit × Tool :=
  let (result, writer) := tool.writer.send forms
  (result, { tool with writer })

def receive (tool : Tool) (count : Int) : Except ChannelError (List Text) × Tool :=
  let (result, reader) := tool.reader.receive count
  (result, { tool with reader })

def request (tool : Tool) (forms : List Text) : Except ChannelError (List Text) × Tool :=
  match tool.send forms with
  | (.error error, tool) => (.error error, tool)
  | (.ok (), tool) => tool.receive forms.length

def running (tool : Tool) : Bool := !tool.released && !tool.ended

def closeInput (tool : Tool) : Tool :=
  let (result, sink) := tool.writer.sink.close
  let tool := { tool with writer := { tool.writer with sink } }
  match result with
  | .ok () => tool
  | .error fault => tool.report (.pipeNotClosed tool.name fault)

def closeOutput (tool : Tool) : Tool :=
  { tool with reader :=
    { tool.reader with stream := { tool.reader.stream with closed := true } } }

/-- Bring the program to an end. One that has ended is left alone. Only a wait with a limit
comes to nothing, so that a stubborn program is never killed without a grace period. -/
def stop (tool : Tool) : Tool :=
  if tool.ended then tool
  else
    let asked := (tool.record .terminate).record (.wait tool.gracePeriod)
    match tool.program.conduct, tool.gracePeriod with
    | .stubborn, none => { asked with waiting := true }
    | .stubborn, some _ => { (asked.record .kill).record (.wait none) with ended := true }
    | .compliant, _ | .exited, _ => { asked with ended := true }

def reportEnd (tool : Tool) : Tool :=
  if tool.waiting then tool else tool.report (.stopped tool.name tool.program.process)

def close (tool : Tool) : Tool :=
  if tool.released then tool
  else ({ tool with released := true } : Tool).closeInput.closeOutput.stop.reportEnd

example :
    let program : Program := { conduct := .stubborn }
    (start program ["tagger".toList] "utf8".toList {}).toOption.map
      (fun tool => tool.close.close.events.drop 1) =
    some [.terminate, .wait (some 5), .kill, .wait none] := by decide +kernel

end Tool

end Standoff
