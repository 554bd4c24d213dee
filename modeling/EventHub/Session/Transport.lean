import EventHub.Hub.CloseReason
import EventHub.Hub.Event
import EventHub.Relay.Frame

/-!
The two directions of a client's transport: frames coming in, and a sink for frames going out. A
sink may refuse frames or be full from some frame on; nothing is written to a full sink until it
has room again.
-/

namespace EventHub

inductive Inbound where
  | text (content : String)
  | other
  | close
  | failure
  | ended
  deriving DecidableEq

/-- How a session sees a frame of its client. -/
def Inbound.ofFrame : ClientFrame → Inbound
  | .text content => text content
  | .close _ => close
  | .binary _ | .ping _ | .pong _ => other

inductive Outbound where
  | text (payload : Payload)
  | close (frame : CloseFrame)
  | finished
  deriving DecidableEq

/-- The frame a client gets; the end of the sink itself is none. -/
def Outbound.frame? : Outbound → Option ClientFrame
  | text payload => some (.text payload)
  | close frame => some frame.toFrame
  | finished => none

structure Sink where
  /-- How many frames it takes before it refuses them. -/
  failAfter : Option Nat := none
  /-- How many frames it takes before it is full. -/
  stallAfter : Option Nat := none
  written : List Outbound := []
  deriving DecidableEq

inductive Written where
  | done (sink : Sink)
  | failed
  | full
  deriving DecidableEq

namespace Sink

def isFull (sink : Sink) : Bool :=
  sink.stallAfter.any fun limit => limit ≤ sink.written.length

def refuses (sink : Sink) : Bool :=
  sink.failAfter.any fun limit => limit ≤ sink.written.length

def write (sink : Sink) (frame : Outbound) : Written :=
  if sink.isFull then .full
  else if sink.refuses then .failed
  else .done { sink with written := sink.written ++ [frame] }

def finish (sink : Sink) : Sink :=
  { sink with written := sink.written ++ [.finished] }

def broken (sink : Sink) : Sink :=
  { sink with failAfter := some 0 }

def unstall (sink : Sink) : Sink :=
  { sink with stallAfter := none }

end Sink

end EventHub
