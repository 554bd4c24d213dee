import EventHub.Hub.Config

/-!
Liveness of one client. A tick of the monitor finds the last ping answered, still within its
timeout, or missed; too many misses in a row are the end of the connection.
-/

namespace EventHub

abbrev Instant := Nat

inductive TickAction where
  | sendPing
  | wait
  | evict
  deriving DecidableEq

def TickAction.text : TickAction → String
  | sendPing => "send_ping"
  | wait => "wait"
  | evict => "evict"

structure Heartbeat where
  lastPing : Option Instant := none
  lastPong : Option Instant := none
  missed : Nat := 0
  alive : Bool := true
  deriving DecidableEq

namespace Heartbeat

def start : Heartbeat := {}

/-- When the ping still unanswered was sent. -/
def outstanding (heartbeat : Heartbeat) : Option Instant :=
  match heartbeat.lastPong with
  | none => heartbeat.lastPing
  | some _ => none

def recordPing (heartbeat : Heartbeat) (now : Instant) : Heartbeat :=
  { heartbeat with lastPing := some now, lastPong := none }

def recordPong (heartbeat : Heartbeat) (now : Instant) : Heartbeat :=
  { heartbeat with lastPong := some now, missed := 0 }

def markDead (heartbeat : Heartbeat) : Heartbeat :=
  { heartbeat with alive := false }

/-- A clock that ran backwards has measured no time. -/
def overdue (config : HeartbeatConfig) (sent now : Instant) : Bool :=
  config.pongTimeout ≤ now - sent

def miss (config : HeartbeatConfig) (heartbeat : Heartbeat) (now : Instant) :
    Heartbeat × TickAction :=
  let missed := heartbeat.missed + 1
  if config.maxMissedPongs.toNat ≤ missed then
    ({ heartbeat with missed, alive := false }, .evict)
  else ({ heartbeat with missed }.recordPing now, .sendPing)

def tick (config : HeartbeatConfig) (heartbeat : Heartbeat) (now : Instant) :
    Heartbeat × TickAction :=
  if !heartbeat.alive then (heartbeat, .evict)
  else
    match heartbeat.outstanding with
    | some sent => if overdue config sent now then heartbeat.miss config now else (heartbeat, .wait)
    | none => (heartbeat.recordPing now, .sendPing)

end Heartbeat

end EventHub
