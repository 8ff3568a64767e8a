import Standoff.Encoding.Basic

/-! Sinks: where texts are written to.

A sink takes a text only as a whole. What cannot be encoded leaves no trace in
it, and what cannot be delivered is kept while there is room, so that closing it
fails once more. -/

namespace Standoff

inductive WriteFault where
  | unencodable (fault : EncodingFault)
  | brokenPipe
  | closed
  deriving DecidableEq, Repr

def WriteFault.message : WriteFault → String
  | .unencodable fault => fault.message
  | .brokenPipe => "[Errno 32] Broken pipe"
  | .closed => "I/O operation on closed file."

/-- A sink of units of type `α`: characters in memory, bytes on the way to a
program. -/
structure Sink (α : Type) where
  encode : Text → Except EncodingFault (List α)
  /-- The number of texts that arrive before nobody reads at the other end any more. -/
  breaksAfter : Option Nat := none
  written : List α := []
  unsent : List α := []
  closed : Bool := false

namespace Sink

variable {α : Type}

def memory : Sink Char where
  encode text := .ok text

def pipe (encoding : Encoding) (breaksAfter : Option Nat := none) : Sink UInt8 where
  encode := encoding.encode
  breaksAfter

def capacity : Nat := 8192

/-- The units that wait after others could not be delivered. What does not fit is
lost. -/
def waiting (unsent units : List α) : List α :=
  if unsent.length + units.length ≤ capacity then unsent ++ units else unsent

def put (sink : Sink α) (text : Text) : Except WriteFault Unit × Sink α :=
  if sink.closed then
    (.error .closed, sink)
  else
    match sink.encode text with
    | .error fault => (.error (.unencodable fault), sink)
    | .ok units =>
        if sink.breaksAfter = some 0 then
          (.error .brokenPipe, { sink with unsent := waiting sink.unsent units })
        else
          (.ok (), { sink with
            written := sink.written ++ units
            breaksAfter := sink.breaksAfter.map (· - 1) })

def breakOff (sink : Sink α) : Sink α := { sink with breaksAfter := some 0 }

/-- Close the sink. It is closed also when something could not be delivered. -/
def close (sink : Sink α) : Except WriteFault Unit × Sink α :=
  (if sink.unsent.isEmpty || sink.closed then .ok () else .error .brokenPipe,
    { sink with closed := true })

end Sink

end Standoff
