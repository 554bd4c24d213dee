import EventHub.Live.Basic

/-!
Letting a hub work. At one instant every activity goes on until none has a step left: send loops
whose rest is over first, then receive loops, then send loops that were woken, and the rest after
them. Of two limits that are reached at one instant, the one set first goes first. Time then jumps
to the next instant at which some activity goes on by itself.
-/

namespace EventHub.LiveHub

/-- A send loop that goes on without being woken. -/
def sendsUnwoken (live : LiveHub) (session : Session) : Bool :=
  match session.send with
  | .resting wake => wake ≤ live.clock
  | _ => true

/-- A supervisor whose limit is reached before that of the send loop. -/
def supervisesFirst (live : LiveHub) (session : Session) : Bool :=
  session.superviseWake?.any (fun deadline => deadline ≤ live.clock) &&
    session.supervisorLeads live.hub.config

def tasks (live : LiveHub) : List Task :=
  let ids := live.sessions.keys
  let leading := live.sessions.entries.filter fun entry => live.supervisesFirst entry.2
  let unwoken := live.sessions.entries.filter fun entry => live.sendsUnwoken entry.2
  leading.map (fun entry => .supervise entry.1) ++ unwoken.map (fun entry => .send entry.1) ++
    ids.map .receive ++ ids.map .send ++ ids.map .supervise ++
    live.closings.map (fun closing => .close closing.id) ++ [.route, .monitor]

def nextStep? (live : LiveHub) : Option LiveHub :=
  live.tasks.findSome? live.taskStep

/-- Messages that can still move on: inbound frames, control messages, buffered and queued
events. -/
def backlog (live : LiveHub) : Nat :=
  (live.sessions.entries.map fun (id, session) =>
    session.inbound.length + ((live.hub.get? id).map fun connection =>
      connection.control.waiting.length + connection.buffer.depth).getD 0).foldl (· + ·) 0 +
    live.ingest.waiting.length

/-- A bound on the steps left at one instant. -/
def stepBound (live : LiveHub) : Nat :=
  (live.backlog + live.closings.length + live.hub.count + 4) *
    (8 * (live.sessions.size + 2))

def runSteps : Nat → LiveHub → LiveHub
  | 0, live => live
  | fuel + 1, live =>
      match live.nextStep? with
      | some next => runSteps fuel next
      | none => live

def runReady (live : LiveHub) : LiveHub :=
  runSteps live.stepBound live

def earlier : Option Instant → Option Instant → Option Instant
  | some left, some right => some (min left right)
  | some left, none => some left
  | none, right => right

def monitorWake? (live : LiveHub) : Option Instant :=
  match live.monitor with
  | .waiting due => some due
  | .stopped | .closing _ _ => none

/-- The next instant after now at which an activity goes on by itself. -/
def nextWake? (live : LiveHub) : Option Instant :=
  let wakes :=
    live.sessions.values.map Session.sendWake? ++
      live.sessions.values.map Session.superviseWake? ++
      live.closings.map (fun closing => some closing.deadline) ++ [live.monitorWake?]
  wakes.foldl (fun best wake => earlier best (wake.filter fun instant => live.clock < instant)) none

def advanceSteps (holds : LiveHub → Bool) : Nat → Instant → LiveHub → LiveHub
  | 0, target, live => { live with clock := target }
  | fuel + 1, target, live =>
      let ready := live.runReady
      if holds ready then ready
      else
        match ready.nextWake? with
        | some wake =>
            if wake < target then advanceSteps holds fuel target { ready with clock := wake }
            else { ready with clock := target }
        | none => { ready with clock := target }

/-- Lets time pass until a condition holds, or the span is over. What falls due at the very end
happens when the hub next gets to run. -/
def advanceUntil (live : LiveHub) (holds : LiveHub → Bool) (span : Nat) : LiveHub :=
  advanceSteps holds (span + 1) (live.clock + span) live

def advance (live : LiveHub) (span : Nat) : LiveHub :=
  live.advanceUntil (fun _ => false) span

def closingTime (live : LiveHub) (ids : List ConnectionId) : Nat :=
  live.closings.foldl (fun longest closing =>
    if ids.contains closing.id then max longest (closing.deadline - live.clock) else longest) 0

end EventHub.LiveHub
