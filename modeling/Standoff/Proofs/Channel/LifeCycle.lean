import Standoff.Channel.Tool

/-! The life of a tool. Whatever its owner does with it, and even if its program ends by
itself, the program is asked to end, and forced to, only when the tool is closed for the
first time. After that nothing more is done to it. Only a stubborn program can outlive the
close, if no grace period is given: then the close waits for it without limit. -/

namespace Standoff

/-! ## Moves -/

/-- What can happen to a tool: a call of its owner, or that its program ends by itself. -/
inductive Move where
  | send (forms : List Text)
  | receive (count : Int)
  | request (forms : List Text)
  | running
  | close
  /-- The owner leaves the block that the tool is used in. -/
  | leave
  | exit
  deriving DecidableEq, Repr

def Move.closes : Move → Bool
  | .close | .leave => true
  | _ => false

inductive Reply where
  | done
  | tags (tags : List Text)
  | running (answer : Bool)
  /-- The call has not returned. -/
  | waits
  deriving DecidableEq, Repr

namespace Tool

/-- The program ends by itself. It reads nothing more, and an owner who waits for its end
goes on. -/
def exit (tool : Tool) : Tool :=
  let left := { tool with
    writer := { tool.writer with sink := tool.writer.sink.breakOff }
    ended := true }
  if tool.waiting then ({ left with waiting := false } : Tool).reportEnd else left

def move (tool : Tool) : Move → Except ChannelError Reply × Tool
  | .send forms =>
      let (result, tool) := tool.send forms
      (result.map fun () => .done, tool)
  | .receive count =>
      let (result, tool) := tool.receive count
      (result.map .tags, tool)
  | .request forms =>
      let (result, tool) := tool.request forms
      (result.map .tags, tool)
  | .running => (.ok (.running tool.running), tool)
  | .close | .leave =>
      -- Closing a tool once more returns even while the first close waits.
      let closed := tool.close
      (.ok (if closed.waiting && !tool.released then .waits else .done), closed)
  | .exit => (.ok .done, tool.exit)

def moves (tool : Tool) (moves : List Move) : Tool :=
  moves.foldl (fun tool move => (tool.move move).2) tool

/-! ## What requests leave alone -/

/-- The part of a tool that concerns its program and not the pipes. -/
structure Life where
  command : List Text
  program : Program
  gracePeriod : Option Int
  events : List Event
  ended : Bool
  released : Bool
  waiting : Bool
  notices : List Notice

def life (tool : Tool) : Life where
  command := tool.command
  program := tool.program
  gracePeriod := tool.gracePeriod
  events := tool.events
  ended := tool.ended
  released := tool.released
  waiting := tool.waiting
  notices := tool.notices

theorem life_send (tool : Tool) (forms : List Text) : (tool.send forms).2.life = tool.life := rfl

theorem life_receive (tool : Tool) (count : Int) : (tool.receive count).2.life = tool.life := rfl

theorem life_request (tool : Tool) (forms : List Text) :
    (tool.request forms).2.life = tool.life := by
  have sent := tool.life_send forms
  unfold request
  rcases sending : tool.send forms with ⟨error | ⟨⟩, next⟩
  · rw [sending] at sent
    exact sent
  · rw [sending] at sent
    exact (next.life_receive forms.length).trans sent

/-! ## The first close -/

/-- What is done to a program to bring it to an end. One that has ended is left alone, and
only a wait with a limit can come to nothing. -/
def endingOf (conduct : Conduct) (period : Option Int) (ended : Bool) : List Event :=
  match ended, conduct, period with
  | true, _, _ => []
  | false, .stubborn, some seconds => [.terminate, .wait (some seconds), .kill, .wait none]
  | false, _, _ => [.terminate, .wait period]

/-- Whether a program that is asked to end outlives any wait for it. -/
def outlives (conduct : Conduct) (period : Option Int) (ended : Bool) : Bool :=
  match ended, conduct, period with
  | false, .stubborn, none => true
  | _, _, _ => false

theorem outlives_eq_true_iff {conduct : Conduct} {period : Option Int} {ended : Bool} :
    outlives conduct period ended = true ↔
      ended = false ∧ conduct = .stubborn ∧ period = none := by
  cases ended <;> cases conduct <;> cases period <;> simp [outlives]

theorem outlives_of_limited (conduct : Conduct) (seconds : Int) (ended : Bool) :
    outlives conduct (some seconds) ended = false := by
  simp [← Bool.not_eq_true, outlives_eq_true_iff]

def pipeNotices (tool : Tool) : List Notice :=
  match tool.writer.sink.close.1 with
  | .ok () => []
  | .error fault => [.pipeNotClosed tool.name fault]

def closingNotices (tool : Tool) : List Notice :=
  tool.pipeNotices ++ [.stopped tool.name tool.program.process]

theorem life_stop {tool : Tool} (idle : tool.life.waiting = false) :
    let outlives := outlives tool.life.program.conduct tool.life.gracePeriod tool.life.ended
    tool.stop.life = { tool.life with
      events := tool.life.events ++
        endingOf tool.life.program.conduct tool.life.gracePeriod tool.life.ended
      ended := !outlives
      waiting := outlives } := by
  have idleTool : tool.waiting = false := idle
  unfold stop
  cases ended : tool.ended with
  | true => simp [outlives, endingOf, life, ended, idleTool]
  | false =>
      cases conduct : tool.program.conduct <;> cases period : tool.gracePeriod <;>
        simp [outlives, endingOf, life, record, ended, conduct, period, idleTool]

theorem pipes_stop (tool : Tool) :
    tool.stop.writer = tool.writer ∧ tool.stop.reader = tool.reader := by
  unfold stop
  cases tool.ended with
  | true => exact ⟨rfl, rfl⟩
  | false => cases tool.program.conduct <;> cases tool.gracePeriod <;> exact ⟨rfl, rfl⟩

theorem life_closeInput (tool : Tool) :
    tool.closeInput.life =
      { tool.life with notices := tool.life.notices ++ tool.pipeNotices } := by
  unfold closeInput pipeNotices
  rcases tool.writer.sink.close with ⟨fault | ⟨⟩, sink⟩
  · rfl
  · simp [life]

theorem closed_closeInput (tool : Tool) : tool.closeInput.writer.sink.closed = true := by
  unfold closeInput Sink.close
  cases tool.writer.sink.unsent.isEmpty || tool.writer.sink.closed <;> rfl

theorem life_closeOutput (tool : Tool) : tool.closeOutput.life = tool.life := rfl

theorem life_reportEnd (tool : Tool) :
    tool.reportEnd.life = { tool.life with
      notices := tool.life.notices ++ if tool.life.waiting then []
        else [.stopped (tool.life.command.headD []) tool.life.program.process] } := by
  unfold reportEnd
  cases waiting : tool.waiting <;> simp [life, report, name, waiting]

theorem pipes_reportEnd (tool : Tool) :
    tool.reportEnd.writer = tool.writer ∧ tool.reportEnd.reader = tool.reader := by
  unfold reportEnd
  cases tool.waiting <;> exact ⟨rfl, rfl⟩

def shut (tool : Tool) : Tool := ({ tool with released := true } : Tool).closeInput.closeOutput

theorem close_of_unreleased {tool : Tool} (unreleased : tool.released = false) :
    tool.close = tool.shut.stop.reportEnd :=
  if_neg (by simp [unreleased])

theorem life_shut (tool : Tool) :
    tool.shut.life =
      { tool.life with released := true, notices := tool.life.notices ++ tool.pipeNotices } := by
  rw [shut, life_closeOutput, life_closeInput]
  rfl

/-- Everything that the first close does. A pipe that cannot be closed is only reported. -/
theorem life_close {tool : Tool} (unreleased : tool.released = false)
    (idle : tool.waiting = false) :
    let outlives := outlives tool.program.conduct tool.gracePeriod tool.ended
    tool.close.life = { tool.life with
      events := tool.events ++ endingOf tool.program.conduct tool.gracePeriod tool.ended
      ended := !outlives
      released := true
      waiting := outlives
      notices := tool.notices ++ if outlives then tool.pipeNotices else tool.closingNotices } := by
  generalize outlives : Tool.outlives tool.program.conduct tool.gracePeriod tool.ended = outlived
  have idleShut : tool.shut.life.waiting = false := by
    rw [life_shut]
    exact idle
  rw [close_of_unreleased unreleased, life_reportEnd, life_stop idleShut, life_shut]
  cases outlived with
  | true => simp [life, outlives]
  | false => simp [closingNotices, life, name, outlives]

/-- A close that returns has brought the program to an end. -/
theorem close_of_life {tool : Tool} {life : Life} (same : tool.life = life)
    (unreleased : life.released = false) (idle : life.waiting = false)
    (returns : outlives life.program.conduct life.gracePeriod life.ended = false) :
    tool.close.events =
        life.events ++ endingOf life.program.conduct life.gracePeriod life.ended ∧
      tool.close.notices = life.notices ++ tool.closingNotices := by
  subst same
  have returnsHere : outlives tool.program.conduct tool.gracePeriod tool.ended = false := returns
  have closed := life_close unreleased idle
  simp only [returnsHere, Bool.false_eq_true, if_false] at closed
  exact ⟨congrArg Life.events closed, congrArg Life.notices closed⟩

theorem pipes_close {tool : Tool} (unreleased : tool.released = false) :
    tool.close.writer.sink.closed = true ∧ tool.close.reader.stream.closed = true := by
  let input := ({ tool with released := true } : Tool).closeInput
  rcases input.closeOutput.pipes_stop with ⟨stoppedWriter, stoppedReader⟩
  rcases input.closeOutput.stop.pipes_reportEnd with ⟨writer, reader⟩
  rw [close_of_unreleased unreleased]
  constructor
  · exact (congrArg (·.sink.closed) (writer.trans stoppedWriter)).trans (closed_closeInput _)
  · exact congrArg (·.stream.closed) (reader.trans stoppedReader)

/-! ## Before and after -/

theorem life_exit (tool : Tool) :
    tool.exit.life = { tool.life with
      ended := true
      waiting := false
      notices := tool.life.notices ++ if tool.life.waiting
        then [.stopped (tool.life.command.headD []) tool.life.program.process] else [] } := by
  unfold exit
  cases waiting : tool.waiting <;> simp [life, reportEnd, report, name, waiting]

theorem life_exit_of_idle {tool : Tool} (idle : tool.waiting = false) :
    tool.exit.life = { tool.life with ended := true } := by
  rw [life_exit]
  simp [life, idle]

theorem life_move {tool : Tool} {move : Move} (keeps : move.closes = false)
    (call : move ≠ .exit) : (tool.move move).2.life = tool.life := by
  cases move with
  | send forms => exact tool.life_send forms
  | receive count => exact tool.life_receive count
  | request forms => exact tool.life_request forms
  | running => rfl
  | exit => exact absurd rfl call
  | close | leave => cases keeps

/-- Before a tool is closed, nothing is done to its program, which may end by itself. -/
theorem life_moves {tool : Tool} {early : List Move} (idle : tool.waiting = false)
    (keep : ∀ move ∈ early, move.closes = false) :
    (tool.moves early).life =
      { tool.life with ended := tool.life.ended || decide (.exit ∈ early) } := by
  induction early generalizing tool with
  | nil => simp [moves]
  | cons first rest induction =>
      rw [List.forall_mem_cons] at keep
      by_cases call : first = .exit
      · subst call
        have left := life_exit_of_idle idle
        have later : (tool.moves (.exit :: rest)).life = _ :=
          induction (congrArg Life.waiting left |>.trans idle) keep.2
        rw [later, show (tool.move .exit).2.life = _ from left]
        simp
      · have kept : (tool.move first).2.life = tool.life := life_move keep.1 call
        have later : (tool.moves (first :: rest)).life = _ :=
          induction ((congrArg Life.waiting kept).trans idle) keep.2
        have different : .exit ≠ first := Ne.symm call
        rw [later, kept]
        simp [different]

/-- A closed tool that nothing is done to any more. Its program has ended, unless its owner
waits for it. -/
structure Retired (tool : Tool) : Prop where
  released : tool.released = true
  ended : tool.ended = !tool.waiting

theorem Retired.move {tool : Tool} (retired : Retired tool) (move : Move)
    (settled : tool.waiting = false ∨ move ≠ .exit) : (tool.move move).2.life = tool.life := by
  by_cases closes : move.closes
  · have kept : tool.close = tool := if_pos retired.released
    cases move <;> cases closes <;> exact congrArg life kept
  · by_cases call : move = .exit
    · subst call
      have idle : tool.waiting = false := settled.resolve_right fun other => other rfl
      have ended := retired.ended
      rw [idle] at ended
      rw [show (tool.move .exit).2.life = _ from life_exit_of_idle idle]
      simp [life, ended]
    · exact life_move (by simpa using closes) call

theorem Retired.moves {tool : Tool} (retired : Retired tool) {late : List Move}
    (settled : tool.waiting = false ∨ .exit ∉ late) : (tool.moves late).life = tool.life := by
  induction late generalizing tool with
  | nil => rfl
  | cons first rest induction =>
      rw [List.mem_cons, not_or] at settled
      have step := retired.move first (settled.imp id fun other => Ne.symm other.1)
      have next : Retired (tool.move first).2 := by
        have ended : (tool.move first).2.ended = tool.ended := congrArg Life.ended step
        have waiting : (tool.move first).2.waiting = tool.waiting := congrArg Life.waiting step
        refine ⟨(congrArg Life.released step).trans retired.released, ?_⟩
        rw [ended, waiting, retired.ended]
      refine (induction next (settled.imp ?_ And.right)).trans step
      exact (congrArg Life.waiting step).trans

/-! ## The whole life -/

theorem life_of_start {program : Program} {command : List Text} {name : Text}
    {options : ToolOptions} {tool : Tool}
    (started : start program command name options = .ok tool) :
    tool.life = {
      command
      program
      gracePeriod := options.gracePeriod
      events := startEvents command name
      ended := program.conduct == .exited
      released := false
      waiting := false
      notices := [.started tool.name program.process] } := by
  rcases eq_of_start started with ⟨_, _, rfl⟩
  rfl

section

variable {program : Program} {command : List Text} {name : Text} {options : ToolOptions}
  {tool : Tool}

theorem life_of_moves (started : start program command name options = .ok tool)
    {early : List Move} (unclosed : ∀ move ∈ early, move.closes = false) :
    (tool.moves early).life = {
      command
      program
      gracePeriod := options.gracePeriod
      events := startEvents command name
      ended := decide (program.conduct = .exited ∨ .exit ∈ early)
      released := false
      waiting := false
      notices := [.started tool.name program.process] } := by
  have born := life_of_start started
  rw [life_moves (congrArg Life.waiting born) unclosed, born]
  simp only [Bool.decide_or]
  rfl

/-- The first close returns unless the program outlives it. -/
theorem first_close (started : start program command name options = .ok tool)
    {early : List Move} (unclosed : ∀ move ∈ early, move.closes = false) {closing : Move}
    (closes : closing.closes) {ended outlived : Bool}
    (found : decide (program.conduct = .exited ∨ .exit ∈ early) = ended)
    (outlives : outlives program.conduct options.gracePeriod ended = outlived) :
    let used := tool.moves early
    used.move closing = (.ok (if outlived then .waits else .done), used.close) ∧
    used.close.life = { used.life with
      events := startEvents command name ++
        endingOf program.conduct options.gracePeriod ended
      ended := !outlived
      released := true
      waiting := outlived
      notices := used.notices ++ if outlived then used.pipeNotices else used.closingNotices } ∧
    Retired used.close := by
  intro used
  have life := life_of_moves started unclosed
  have unreleased : used.released = false := congrArg Life.released life
  have idle : used.waiting = false := congrArg Life.waiting life
  have conduct : used.program = program := congrArg Life.program life
  have period : used.gracePeriod = options.gracePeriod := congrArg Life.gracePeriod life
  have events : used.events = startEvents command name := congrArg Life.events life
  have endedUsed : used.ended = ended := (congrArg Life.ended life).trans found
  have closed := life_close unreleased idle
  simp only [conduct, period, events, endedUsed, outlives] at closed
  have waiting : used.close.waiting = outlived := congrArg Life.waiting closed
  refine ⟨?_, closed, congrArg Life.released closed, ?_⟩
  · cases closing <;> cases closes <;> simp [Tool.move, waiting, unreleased]
  · rw [waiting]
    exact congrArg Life.ended closed

/-- The owner of a tool brings its program to an end when it closes the tool for the first
time, never before and never again. A stubborn program that does not end by itself has to
be given a period, since a wait without limit never comes to the point of killing it. A tool
is started in one of the three encodings of `Encoding`. -/
theorem ends_at_first_close (started : start program command name options = .ok tool)
    (early : List Move) (unclosed : ∀ move ∈ early, move.closes = false)
    (limited : program.conduct = .stubborn → options.gracePeriod = none → .exit ∈ early) :
    let used := tool.moves early
    let ended := decide (program.conduct = .exited ∨ .exit ∈ early)
    used.events = startEvents command name ∧
    (used.move .running).1 = .ok (.running !ended) ∧
    ∀ closing : Move, closing.closes →
      let (answer, closed) := used.move closing
      answer = .ok .done ∧
      closed.events = startEvents command name ++
        endingOf program.conduct options.gracePeriod ended ∧
      closed.writer.sink.closed ∧ closed.reader.stream.closed ∧
      closed.notices = used.notices ++ used.closingNotices ∧
      ∀ late : List Move,
        let last := closed.moves late
        last.ended ∧ last.events = closed.events ∧
          (last.move .running).1 = .ok (.running false) := by
  intro used ended
  have life := life_of_moves started unclosed
  have unreleased : used.released = false := congrArg Life.released life
  have returns : outlives program.conduct options.gracePeriod ended = false := by
    rw [← Bool.not_eq_true, outlives_eq_true_iff]
    intro outlived
    have left := limited outlived.2.1 outlived.2.2
    simp [ended, left] at outlived
  refine ⟨congrArg Life.events life, ?_, fun closing closes => ?_⟩
  · have endedUsed : used.ended = ended := congrArg Life.ended life
    simp [Tool.move, running, unreleased, endedUsed]
  rcases first_close started unclosed closes rfl returns with ⟨answered, closed, retired⟩
  rw [answered]
  refine ⟨rfl, congrArg Life.events closed, (pipes_close unreleased).1,
    (pipes_close unreleased).2, congrArg Life.notices closed, fun late => ?_⟩
  have last : ((tool.moves early).close.moves late).life = (tool.moves early).close.life :=
    retired.moves (Or.inl (congrArg Life.waiting closed))
  have released : ((tool.moves early).close.moves late).released = true :=
    (congrArg Life.released last).trans retired.released
  refine ⟨congrArg Life.ended (last.trans closed), congrArg Life.events last, ?_⟩
  simp [Tool.move, running, released]

/-- A stubborn program that reads only one of two requests is killed once, although the pipe
to it cannot be closed. One that ends by itself between two requests is left alone, and it
needs no period. -/
theorem ends_at_first_close_stubborn :
    let reader : Program := { conduct := .stubborn, inputBreaksAfter := some 1 }
    let leaver : Program := { conduct := .stubborn }
    let name := "tagger".toList
    let hi := "Hi\n\n".toList.flatMap Encoding.utf8.encodeCharacter
    (∃ tool, start reader [name] "utf8".toList {} = .ok tool ∧
      let used := tool.moves [.send ["Hi".toList], .request ["Joe".toList], .running]
      let closed := (used.move .leave).2
      used.written = hi ∧
      closed.events = [.start [name] "utf8".toList, .terminate, .wait (some 5), .kill,
        .wait none] ∧
      closed.notices = used.notices ++ [.pipeNotClosed name .brokenPipe, .stopped name 0] ∧
      (closed.moves [.receive 1, .close, .exit]).events = closed.events) ∧
    ∃ tool, start leaver [name] "utf8".toList { gracePeriod := none } = .ok tool ∧
      let used := tool.moves [.send ["Hi".toList], .exit, .send ["Joe".toList]]
      let closed := (used.move .close).2
      used.written = hi ∧ closed.events = [.start [name] "utf8".toList] ∧
      closed.notices = used.notices ++ [.pipeNotClosed name .brokenPipe, .stopped name 0] := by
  intro reader leaver name hi
  refine ⟨⟨_, rfl, ?_⟩, _, rfl, ?_⟩
  · intro used closed
    rcases @ends_at_first_close reader [name] "utf8".toList {} _ rfl
      [.send ["Hi".toList], .request ["Joe".toList], .running] (by simp [Move.closes]) nofun with
      ⟨_, _, closing⟩
    rcases closing .leave rfl with ⟨_, events, _, _, notices, later⟩
    exact ⟨rfl, events, notices, (later [.receive 1, .close, .exit]).2.1⟩
  · intro used closed
    rcases @ends_at_first_close leaver [name] "utf8".toList { gracePeriod := none } _ rfl
      [.send ["Hi".toList], .exit, .send ["Joe".toList]] (by simp [Move.closes])
      (fun _ _ => by simp) with ⟨_, _, closing⟩
    rcases closing .close rfl with ⟨_, events, _, _, notices, _⟩
    exact ⟨rfl, events, notices⟩

/-- Without a grace period a stubborn program is asked to end and nothing else. The close
returns when the program ends by itself, and only then is its end reported. -/
theorem waits_at_first_close (started : start program command name options = .ok tool)
    (early : List Move) (unclosed : ∀ move ∈ early, move.closes = false)
    (stubborn : program.conduct = .stubborn) (unlimited : options.gracePeriod = none)
    (stays : .exit ∉ early) (closing : Move) (closes : closing.closes) :
    let used := tool.moves early
    let (answer, closed) := used.move closing
    answer = .ok .waits ∧
    ∀ meanwhile : List Move, .exit ∉ meanwhile →
      let last := closed.moves meanwhile
      last.ended = false ∧
      last.events = startEvents command name ++ [.terminate, .wait none] ∧
      last.notices = used.notices ++ used.pipeNotices ∧
      last.exit.ended ∧ last.exit.events = last.events ∧
      last.exit.notices = used.notices ++ used.closingNotices := by
  intro used
  have runs : decide (program.conduct = .exited ∨ .exit ∈ early) = false := by
    simp [stubborn, stays]
  have outlived : outlives program.conduct options.gracePeriod false = true :=
    outlives_eq_true_iff.mpr ⟨rfl, stubborn, unlimited⟩
  rcases first_close started unclosed closes runs outlived with ⟨answered, closed, retired⟩
  rw [answered]
  refine ⟨rfl, fun meanwhile stillStays => ?_⟩
  have last := (retired.moves (Or.inr stillStays)).trans closed
  have left := life_exit (used.close.moves meanwhile)
  rw [last] at left
  refine ⟨congrArg Life.ended last, ?_, congrArg Life.notices last, congrArg Life.ended left,
    (congrArg Life.events left).trans (congrArg Life.events last).symm, ?_⟩
  · rw [stubborn, unlimited] at last
    exact congrArg Life.events last
  · rw [closingNotices, ← List.append_assoc]
    exact congrArg Life.notices left

end

end Tool

end Standoff
