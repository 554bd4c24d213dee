import EventHub.Hub.Config
import EventHub.Hub.Event

/-!
The queue between event production and one client. It never blocks: when it is full, the oldest
payload makes room for the newest. Crossing the high mark upwards pauses the buffer, coming down
to the low mark resumes it.
-/

namespace EventHub

inductive Crossing where
  | paused
  | resumed
  deriving DecidableEq

namespace Crossing

def text : Crossing → String
  | paused => "paused"
  | resumed => "resumed"

end Crossing

structure Buffer where
  capacity : Nat
  highMark : Nat
  lowMark : Nat
  queue : List Payload := []
  dropped : Nat := 0
  paused : Bool := false
  pauseCount : Nat := 0
  resumeCount : Nat := 0
  deriving DecidableEq

/-- What an enqueue did; it is not `accepted` when an older payload was dropped for it. -/
structure Enqueued where
  accepted : Bool
  crossing : Option Crossing
  deriving DecidableEq

structure Dequeued where
  payload : Payload
  crossing : Option Crossing
  deriving DecidableEq

namespace Buffer

def ofConfig (config : BufferConfig) : Buffer where
  capacity := config.effective.capacity
  highMark := config.effective.highMark
  lowMark := config.effective.lowMark

def depth (buffer : Buffer) : Nat :=
  buffer.queue.length

def isFull (buffer : Buffer) : Bool :=
  buffer.capacity ≤ buffer.depth

def isEmpty (buffer : Buffer) : Bool :=
  buffer.queue.isEmpty

def makeRoom (buffer : Buffer) : Buffer :=
  if buffer.isFull then
    { buffer with queue := buffer.queue.tail, dropped := buffer.dropped + 1 }
  else buffer

def append (buffer : Buffer) (payload : Payload) : Buffer :=
  { buffer with queue := buffer.queue ++ [payload] }

def checkHigh (buffer : Buffer) : Buffer × Option Crossing :=
  if !buffer.paused && buffer.highMark ≤ buffer.depth then
    ({ buffer with paused := true, pauseCount := buffer.pauseCount + 1 }, some .paused)
  else (buffer, none)

def checkLow (buffer : Buffer) : Buffer × Option Crossing :=
  if buffer.paused && buffer.depth ≤ buffer.lowMark then
    ({ buffer with paused := false, resumeCount := buffer.resumeCount + 1 }, some .resumed)
  else (buffer, none)

def enqueue (buffer : Buffer) (payload : Payload) : Buffer × Enqueued :=
  let (next, crossing) := (buffer.makeRoom.append payload).checkHigh
  (next, { accepted := !buffer.isFull, crossing })

def dequeue (buffer : Buffer) : Buffer × Option Dequeued :=
  match buffer.queue with
  | [] => (buffer, none)
  | payload :: rest =>
      let (next, crossing) := { buffer with queue := rest }.checkLow
      (next, some { payload, crossing })

def drain : Nat → Buffer → Buffer × List Dequeued
  | 0, buffer => (buffer, [])
  | limit + 1, buffer =>
      match buffer.dequeue with
      | (next, some taken) =>
          let (last, rest) := drain limit next
          (last, taken :: rest)
      | (next, none) => (next, [])

/-- Discards everything. What is discarded counts as dropped, and a paused buffer resumes. -/
def clear (buffer : Buffer) : Buffer :=
  { buffer with
    queue := []
    dropped := buffer.dropped + buffer.depth
    paused := false
    resumeCount := buffer.resumeCount + (if buffer.paused then 1 else 0) }

end Buffer

end EventHub
