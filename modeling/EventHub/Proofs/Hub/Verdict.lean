import EventHub.Proofs.Hub.Closing
import EventHub.Proofs.Hub.HeartbeatHistory

/-!
What a pass of the heartbeat monitor makes of one connection. The heartbeat decides, and where it
asks for a ping the control queue does; nobody else in the hub has a say.
-/

namespace EventHub

inductive Verdict where
  | pinged
  | waits
  | evicted
  deriving DecidableEq

/-- The reading end is not gone, and there is room. -/
def ControlQueue.takes (queue : ControlQueue) : Bool :=
  decide (queue.reader ≠ .gone ∧ queue.waiting.length < queue.capacity)

def Connection.verdict (config : HeartbeatConfig) (now : Instant) (connection : Connection) :
    Verdict :=
  match (connection.heartbeat.tick config now).2 with
  | .wait => .waits
  | .evict => .evicted
  | .sendPing => if connection.control.takes then .pinged else .evicted

/-- Only who is registered and open gets a verdict. -/
def Standing.verdict? (config : HeartbeatConfig) (now : Instant) (standing : Standing) :
    Option Verdict :=
  if standing.registered && standing.isOpen then
    standing.connection.map (Connection.verdict config now)
  else .none

def Hub.verdict? (hub : Hub) (now : Instant) (id : ConnectionId) : Option Verdict :=
  (hub.standing id).verdict? hub.config.heartbeat now

namespace ControlQueue

variable {queue : ControlQueue}

theorem send_of_takes (takes : queue.takes = true) (payload : Payload) :
    queue.send payload = .ok { queue with waiting := queue.waiting ++ [payload] } := by
  obtain ⟨held, room⟩ := of_decide_eq_true takes
  rw [send, if_neg held, if_neg (Nat.not_le.2 room)]

theorem send_of_not_takes (full : queue.takes = false) (payload : Payload) :
    ∃ cause, queue.send payload = .error cause := by
  rw [send]
  split
  · exact ⟨_, rfl⟩
  · rename_i held
    split
    · exact ⟨_, rfl⟩
    · rename_i room
      exact absurd ⟨held, Nat.not_le.1 room⟩ (of_decide_eq_false full)

end ControlQueue

namespace Heartbeat

variable {config : HeartbeatConfig} {heartbeat : Heartbeat} {now : Instant}

theorem Ticks.markDead_of_evict {outcome : Heartbeat × TickAction}
    (ticks : Ticks config now heartbeat outcome) (evicts : outcome.2 = .evict) :
    outcome.1.markDead = outcome.1 := by
  cases ticks with
  | dead dead => rw [markDead, ← dead]
  | gives => rfl
  | waits | pings | misses => cases evicts

end Heartbeat

namespace Connection

variable {config : HeartbeatConfig} {now : Instant} {connection : Connection}

theorem attend_eq_of_waits (verdict : connection.verdict config now = .waits) (stamp : UInt64) :
    connection.attend config now stamp = (connection, false) := by
  rw [Connection.verdict] at verdict
  split at verdict
  · rename_i waits
    have same := (Heartbeat.ticks_tick config connection.heartbeat now).unchanged waits
    simp only [attend, heartbeatTick, waits, same]
  · cases verdict
  · split at verdict <;> cases verdict

theorem attend_eq_of_pinged (verdict : connection.verdict config now = .pinged)
    (stamp : UInt64) :
    connection.attend config now stamp =
      ({ connection with
          heartbeat := (connection.heartbeat.tick config now).1
          control := { connection.control with
            waiting := connection.control.waiting ++ [(ServerMessage.ping stamp).toPayload] } },
        false) := by
  rw [Connection.verdict] at verdict
  split at verdict
  · cases verdict
  · cases verdict
  · rename_i pings
    split at verdict
    · rename_i takes
      have sent := ControlQueue.send_of_takes takes (ServerMessage.ping stamp).toPayload
      simp only [attend, heartbeatTick, pings, tryPing, sendControl, sent, Except.map]
    · cases verdict

theorem attend_eq_of_evicted (verdict : connection.verdict config now = .evicted)
    (stamp : UInt64) :
    connection.attend config now stamp =
      ({ connection with heartbeat := (connection.heartbeat.tick config now).1.markDead },
        true) := by
  rw [Connection.verdict] at verdict
  split at verdict
  · cases verdict
  · rename_i evicts
    have dead := (Heartbeat.ticks_tick config connection.heartbeat now).markDead_of_evict evicts
    simp only [attend, heartbeatTick, evicts, dead]
  · rename_i pings
    split at verdict
    · cases verdict
    · rename_i full
      obtain ⟨cause, refused⟩ := ControlQueue.send_of_not_takes (Bool.eq_false_iff.2 full)
        (ServerMessage.ping stamp).toPayload
      simp only [attend, heartbeatTick, pings, tryPing, sendControl, refused, Except.map,
        markDead]

theorem attend_snd (config : HeartbeatConfig) (now : Instant) (stamp : UInt64)
    (connection : Connection) :
    (connection.attend config now stamp).2 =
      decide (connection.verdict config now = .evicted) := by
  cases verdict : connection.verdict config now with
  | pinged => rw [attend_eq_of_pinged verdict]; rfl
  | waits => rw [attend_eq_of_waits verdict]; rfl
  | evicted => rw [attend_eq_of_evicted verdict]; rfl

/-- Nobody gives a reason before a close is asked for. -/
def Unasked (connection : Connection) : Prop :=
  connection.isOpen = true → connection.closeReason = none

theorem SameEnd.unasked {after : Connection} (same : connection.SameEnd after)
    (unasked : connection.Unasked) : after.Unasked :=
  fun opened => same.closeReason.trans (unasked (same.isOpen.symm.trans opened))

theorem unasked_of_not_isOpen (closing : connection.isOpen = false) : connection.Unasked :=
  fun opened => nomatch closing.symm.trans opened

end Connection

namespace Standing

variable {config : HeartbeatConfig} {now : Instant} {standing : Standing}

theorem verdict?_eq_some_iff {verdict : Verdict} :
    standing.verdict? config now = some verdict ↔
      standing.registered = true ∧ ∃ connection, standing.connection = some connection ∧
        connection.isOpen = true ∧ connection.verdict config now = verdict := by
  rw [verdict?]
  cases registered : standing.registered with
  | false => simp
  | true =>
      cases found : standing.connection with
      | none => simp [isOpen, found]
      | some connection => simp [isOpen, found]

theorem visit_of_verdict {verdict : Verdict} {connection : Connection}
    (given : standing.verdict? config now = some verdict)
    (found : standing.connection = some connection) (stamp : UInt64) :
    connection.verdict config now = verdict ∧
      standing.visit config now stamp =
        { standing with connection := some (connection.attend config now stamp).1 } := by
  obtain ⟨registered, other, foundOther, opened, isVerdict⟩ := verdict?_eq_some_iff.1 given
  cases found.symm.trans foundOther
  have isOpen : standing.isOpen = true := by simpa [Standing.isOpen, found] using opened
  refine ⟨isVerdict, ?_⟩
  rw [visit, if_pos (by rw [registered, isOpen, Bool.and_self]), amend, found, Option.map_some]

theorem visit_of_no_verdict (none : standing.verdict? config now = .none) (stamp : UInt64) :
    standing.visit config now stamp = standing := by
  rw [visit]
  split
  · rename_i both
    rw [verdict?, if_pos both, Option.map_eq_none_iff] at none
    rw [amend, none, Option.map_none, ← none]
  · rfl

theorem isCondemned_iff (stamp : UInt64) :
    standing.isCondemned config now stamp = true ↔
      standing.verdict? config now = some .evicted := by
  rw [verdict?_eq_some_iff, isCondemned]
  simp only [Bool.and_eq_true, Option.any_eq_true, Connection.attend_snd, decide_eq_true_eq]

def Unasked (standing : Standing) : Prop :=
  ∀ connection, standing.connection = some connection → connection.Unasked

theorem Unasked.amend (unasked : standing.Unasked) {change : Connection → Connection}
    (changes : ∀ connection : Connection,
      connection.SameEnd (change connection) ∨ (change connection).isOpen = false) :
    (standing.amend change).Unasked := by
  intro connection found
  obtain ⟨before, foundBefore, rfl⟩ := Option.map_eq_some_iff.1 found
  rcases changes before with same | closed
  · exact same.unasked (unasked before foundBefore)
  · exact Connection.unasked_of_not_isOpen closed

theorem Unasked.leave (unasked : standing.Unasked) (reason : CloseReason) :
    (standing.leave reason).Unasked := by
  rw [Standing.leave]
  split
  · exact unasked.amend fun connection => .inr (connection.isOpen_beginDraining reason)
  · exact unasked

theorem Unasked.close (unasked : standing.Unasked) (reason : CloseReason) :
    (standing.close reason).Unasked := by
  rw [Standing.close]
  split
  · exact (unasked.leave reason).amend fun _ => .inr rfl
  · exact unasked

theorem Unasked.visit (unasked : standing.Unasked) (config : HeartbeatConfig) (now : Instant)
    (stamp : UInt64) : (standing.visit config now stamp).Unasked := by
  rw [Standing.visit]
  split
  · exact unasked.amend fun connection => .inl (connection.sameEnd_attend config now stamp)
  · exact unasked

theorem Unasked.apply (unasked : standing.Unasked) (config : HubConfig) (id : ConnectionId)
    (operation : Hub.Operation) : (standing.apply config id operation).Unasked := by
  cases operation with
  | register other identity version =>
      intro connection found
      cases found
      exact fun _ => rfl
  | subscribe other events clusters =>
      intro connection found
      rw [Standing.apply, connection_subscribe] at found
      exact unasked connection found
  | unsubscribe other events => exact unasked
  | route event =>
      rw [Standing.apply, offer]
      split
      · exact unasked.amend fun connection => .inl (connection.sameEnd_take event.toPayload)
      · exact unasked
  | dequeue other => exact unasked.amend fun _ => .inl ⟨rfl, rfl, rfl⟩
  | clear other => exact unasked.amend fun _ => .inl ⟨rfl, rfl, rfl⟩
  | tend other upkeep =>
      exact unasked.amend fun connection => .inl (upkeep.sameEnd_apply connection)
  | beginDraining other reason =>
      exact unasked.amend fun connection => .inr (connection.isOpen_beginDraining reason)
  | markClosed other => exact unasked.amend fun _ => .inr rfl
  | beginClose other reason => exact unasked.leave reason
  | finishClose other asked => exact unasked.amend fun _ => .inr rfl
  | close other reason => exact unasked.close reason
  | survey now stamp => exact unasked.visit config.heartbeat now stamp
  | tick now stamp =>
      rw [Standing.apply, Standing.tick]
      split
      · exact (unasked.visit config.heartbeat now stamp).close .heartbeatTimeout
      · exact unasked.visit config.heartbeat now stamp
  | shutdown => exact unasked.close .serverShutdown
  | report entry => exact unasked

end Standing

/-! The whole pass. -/

/-- A close from beginning to end, of a connection that was never asked to close. -/
theorem Connection.markClosed_beginDraining {connection : Connection}
    (opened : connection.isOpen = true) (unasked : connection.closeReason = none)
    (reason : CloseReason) :
    (connection.beginDraining reason).1.markClosed =
      { connection with lifecycle := .closed, closeReason := some reason, cancelled := true } := by
  rw [beginDraining, if_pos opened, unasked]
  rfl

namespace Standing

variable {config : HeartbeatConfig} {now : Instant} {standing : Standing}

theorem close_eq {connection : Connection} (registered : standing.registered = true)
    (found : standing.connection = some connection) (reason : CloseReason) :
    standing.close reason =
      { connection := some (connection.beginDraining reason).1.markClosed
        registered := false
        holding := standing.holding.clear } := by
  rw [close, if_pos registered, leave, if_pos registered, amend, beginDraining, amend, found]
  rfl

theorem close_visit_of_evicted {connection : Connection}
    (evicted : standing.verdict? config now = some .evicted)
    (found : standing.connection = some connection) (unasked : connection.Unasked)
    (stamp : UInt64) :
    ((standing.visit config now stamp).close .heartbeatTimeout).connection =
        some { connection with
          heartbeat := (connection.heartbeat.tick config now).1.markDead
          lifecycle := .closed
          closeReason := some .heartbeatTimeout
          cancelled := true } ∧
      ((standing.visit config now stamp).close .heartbeatTimeout).registered = false := by
  obtain ⟨registered, other, foundOther, opened, verdict⟩ := verdict?_eq_some_iff.1 evicted
  cases found.symm.trans foundOther
  let dead : Connection :=
    { connection with heartbeat := (connection.heartbeat.tick config now).1.markDead }
  have visited : standing.visit config now stamp = { standing with connection := some dead } := by
    rw [(visit_of_verdict evicted found stamp).2, Connection.attend_eq_of_evicted verdict]
  have isRegistered : (standing.visit config now stamp).registered = true := by
    rw [visited]
    exact registered
  have isDead : (standing.visit config now stamp).connection = some dead := by rw [visited]
  have stillOpen : dead.isOpen = true := opened
  have noReason : dead.closeReason = .none := unasked opened
  rw [close_eq isRegistered isDead, Connection.markClosed_beginDraining stillOpen noReason]
  exact ⟨rfl, rfl⟩

theorem tick_eq (stamp : UInt64) : standing.tick config now stamp =
    if standing.verdict? config now = some .evicted then
      (standing.visit config now stamp).close .heartbeatTimeout
    else standing.visit config now stamp := by
  rw [tick]
  simp only [isCondemned_iff]

theorem connection_tick_of_pinged {connection : Connection}
    (pinged : standing.verdict? config now = some .pinged)
    (found : standing.connection = some connection) (stamp : UInt64) :
    (standing.tick config now stamp).connection =
      some { connection with
        heartbeat := (connection.heartbeat.tick config now).1
        control := { connection.control with
          waiting := connection.control.waiting ++ [(ServerMessage.ping stamp).toPayload] } } := by
  obtain ⟨verdict, visited⟩ := visit_of_verdict pinged found stamp
  rw [tick_eq, pinged, if_neg nofun, visited, Connection.attend_eq_of_pinged verdict]

theorem tick_of_spared (spared : standing.verdict? config now = .none ∨
    standing.verdict? config now = some .waits) (stamp : UInt64) :
    standing.tick config now stamp = standing := by
  rcases spared with none | waits
  · rw [tick_eq, none, if_neg nofun, visit_of_no_verdict none]
  · obtain ⟨-, connection, found, -, verdict⟩ := verdict?_eq_some_iff.1 waits
    rw [tick_eq, waits, if_neg nofun, (visit_of_verdict waits found stamp).2,
      Connection.attend_eq_of_waits verdict, ← found]

theorem registered_tick (stamp : UInt64) : (standing.tick config now stamp).registered = true ↔
    standing.registered = true ∧ standing.verdict? config now ≠ some .evicted := by
  have visited : (standing.visit config now stamp).registered = standing.registered := by
    rw [visit]
    split <;> rfl
  rw [tick_eq]
  split
  · rename_i evicted
    have left : ((standing.visit config now stamp).close .heartbeatTimeout).registered = false := by
      rw [close]
      split
      · rename_i registered
        rw [leave, if_pos registered]
        rfl
      · rename_i unregistered
        exact Bool.eq_false_iff.2 unregistered
    simp [left, evicted]
  · rename_i spared
    simp [visited, spared]

theorem holding_tick (spared : standing.verdict? config now ≠ some .evicted) (stamp : UInt64) :
    (standing.tick config now stamp).holding = standing.holding := by
  rw [tick_eq, if_neg spared, visit]
  split <;> rfl

end Standing

namespace Hub

variable {hub : Hub}

theorem verdict?_eq_some_iff {now : Instant} {id : ConnectionId} {verdict : Verdict} :
    hub.verdict? now id = some verdict ↔
      ∃ connection, hub.find? id = some connection ∧ connection.isOpen = true ∧
        connection.verdict hub.config.heartbeat now = verdict := by
  rw [verdict?, Standing.verdict?_eq_some_iff]
  simp only [find?_eq_some_iff, and_assoc]
  exact exists_and_left.symm

theorem unasked_run (wellFormed : hub.WellFormed) {id : ConnectionId}
    (unasked : (hub.standing id).Unasked) (operations : List Operation) :
    ((hub.run operations).standing id).Unasked :=
  invariant_run (fun config id _ operation unasked => unasked.apply config id operation)
    wellFormed operations unasked

end Hub

end EventHub
