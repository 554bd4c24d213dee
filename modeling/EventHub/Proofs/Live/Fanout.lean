import EventHub.Proofs.Hub.Fanout
import EventHub.Proofs.Live.Closing

/-!
Routing in a hub at work. A connection is marked closed only after it has left the registry, so one
that still has subscriptions and takes no more events is draining.
-/

namespace EventHub

namespace Standing

/-- Nobody is closed while in the registry. -/
def Unclosed (standing : Standing) : Prop :=
  standing.registered = true → ∀ connection, standing.connection = some connection →
    connection.lifecycle ≠ .closed

namespace Unclosed

variable {standing next : Standing}

theorem of_unregistered (unregistered : standing.registered = false) : standing.Unclosed := by
  intro registered
  cases unregistered.symm.trans registered

theorem congr (unclosed : standing.Unclosed) (connection : next.connection = standing.connection)
    (registered : next.registered = standing.registered) : next.Unclosed := by
  rw [Unclosed, connection, registered]
  exact unclosed

theorem amend (unclosed : standing.Unclosed) {change : Connection → Connection}
    (kept : ∀ connection : Connection, (change connection).lifecycle = .closed →
      connection.lifecycle = .closed) : (standing.amend change).Unclosed := by
  intro registered connection found closed
  obtain ⟨before, stored, rfl⟩ := Option.map_eq_some_iff.1 found
  exact unclosed registered before stored (kept before closed)

theorem beginDraining (unclosed : standing.Unclosed) (reason : CloseReason) :
    (standing.beginDraining reason).Unclosed := by
  refine unclosed.amend fun connection => ?_
  rw [Connection.beginDraining]
  split
  · intro closed
    cases closed
  · exact id

theorem leave (unclosed : standing.Unclosed) (reason : CloseReason) :
    (standing.leave reason).Unclosed := by
  rw [Standing.leave]
  split
  · exact of_unregistered rfl
  · exact unclosed

theorem close (unclosed : standing.Unclosed) (reason : CloseReason) :
    (standing.close reason).Unclosed := by
  rw [Standing.close]
  split
  · rename_i registered
    refine of_unregistered ?_
    rw [Standing.leave, if_pos registered]
    rfl
  · exact unclosed

theorem visit (unclosed : standing.Unclosed) (config : HeartbeatConfig) (now : Instant)
    (stamp : UInt64) : (standing.visit config now stamp).Unclosed := by
  rw [Standing.visit]
  split
  · refine unclosed.amend fun connection closed => ?_
    obtain ⟨heartbeat, control, attended, -⟩ := connection.attend_eq config now stamp
    rwa [attended] at closed
  · exact unclosed

theorem apply (unclosed : standing.Unclosed) (config : HubConfig) (id : ConnectionId)
    {operation : Hub.Operation} (fair : operation.isFair = true) :
    (standing.apply config id operation).Unclosed := by
  cases operation with
  | register other identity version =>
      intro _ connection found
      cases found
      exact nofun
  | subscribe other events clusters =>
      refine unclosed.congr (standing.connection_subscribe _ events clusters) ?_
      simp only [Standing.apply, Standing.subscribe]
      split
      · split <;> rfl
      · rfl
  | unsubscribe other events => exact unclosed.congr rfl rfl
  | route event =>
      simp only [Standing.apply, offer]
      split
      · refine unclosed.amend fun connection closed => ?_
        rw [Connection.take] at closed
        split at closed <;> exact closed
      · exact unclosed
  | dequeue other => exact unclosed.amend fun _ closed => closed
  | clear other => exact unclosed.amend fun _ closed => closed
  | tend other upkeep =>
      exact unclosed.amend fun connection closed =>
        (Connection.lifecycle_upkeep upkeep connection).symm.trans closed
  | beginDraining other reason => exact unclosed.beginDraining reason
  | close other reason => exact unclosed.close reason
  | survey now stamp => exact unclosed.visit _ now stamp
  | tick now stamp =>
      simp only [Standing.apply, Standing.tick]
      split
      · exact (unclosed.visit _ now stamp).close .heartbeatTimeout
      · exact unclosed.visit _ now stamp
  | shutdown => exact unclosed.close .serverShutdown
  | report entry => exact unclosed
  | markClosed _ | beginClose _ _ | finishClose _ _ => cases fair

end Unclosed

end Standing

namespace LiveHub

variable {live next : LiveHub} {id : ConnectionId} {calls log : List CloseCall}

/-- What is marked closed at the end of a close has left. -/
theorem Advances.unclosed (advances : live.Advances calls next)
    (heard : live.hub.Heard id log (live.awaited id)) (unclosed : (live.hub.standing id).Unclosed) :
    (next.hub.standing id).Unclosed := by
  induction advances generalizing log with
  | rests hub closings => rwa [hub]
  | @operates live next operation fair hub closings =>
      rw [hub, (Hub.effect_apply heard.wellFormed operation).standing]
      split
      · exact unclosed.apply live.hub.config id fair
      · exact unclosed
  | begins live key reason =>
      rw [hub_beginClose, (Hub.effect_beginClose heard.wellFormed key reason).standing,
        Standing.onlyAt]
      split
      · exact unclosed.leave reason
      · exact unclosed
  | @ends live next key steps =>
      obtain ⟨closing, waits, isKey, rfl⟩ := closing_of_finishStep steps
      rw [(Hub.effect_finishClose heard.wellFormed key closing.reason).standing, Standing.onlyAt]
      split
      · rename_i same
        subst same
        obtain ⟨waiting, isSucc⟩ :=
          Nat.exists_eq_succ_of_ne_zero (Nat.ne_of_gt (awaited_pos waits isKey))
        rw [isSucc] at heard
        obtain ⟨reason, -, parts⟩ := heard.left_of_waiting
        cases parts with
        | left _ _ _ unregistered => exact .of_unregistered unregistered
      · exact unclosed
  | trans first second ihFirst ihSecond =>
      exact ihSecond (first.heard heard) (ihFirst heard unclosed)

theorem unclosed_run {actions : List Action} (agrees : live.Agrees id log)
    (whole : ∀ action ∈ actions, action.isWhole = true)
    (unclosed : (live.hub.standing id).Unclosed) :
    ((live.run actions).hub.standing id).Unclosed := by
  induction actions generalizing live log with
  | nil => exact unclosed
  | cons action rest ih =>
      obtain ⟨isWhole, whole⟩ := List.forall_mem_cons.1 whole
      have advances := advances_act agrees.staffed isWhole
      exact ih (agrees.act isWhole) whole (advances.unclosed agrees.heard unclosed)

theorem state_of_wanting (config : HubConfig) {actions : List Action}
    (whole : ∀ action ∈ actions, action.isWhole = true) {event : Event}
    (wants : ((idle config).run actions).hub.Wants event id)
    (closing : ((idle config).run actions).hub.isOpen id = false) :
    (((idle config).run actions).hub.get? id).map Connection.state = some .draining := by
  have sound := (sound_run (sound_idle config) actions).standing id
  have unclosed := unclosed_run (agrees_idle config id) whole
    (.of_unregistered (by rfl : ((idle config).hub.standing id).registered = false))
  generalize ((idle config).run actions).hub = hub at *
  obtain ⟨filter, stored, -⟩ := wants
  have registered : (hub.standing id).registered = true := by
    rw [← Bool.not_eq_false]
    intro unregistered
    have nothing := congrArg (fun holding => holding.filter event.eventType)
      (sound.holding_eq_none unregistered)
    cases stored.symm.trans nothing
  obtain ⟨connection, found⟩ := Option.isSome_iff_exists.1 (sound.known registered)
  have isKnown : hub.get? id = some connection := found
  have notOpen : connection.isOpen = false := by rwa [Hub.isOpen, isKnown] at closing
  have notClosed := unclosed registered connection found
  rw [isKnown, Option.map_some, Connection.state]
  rw [Connection.isOpen] at notOpen
  cases lifecycle : connection.lifecycle with
  | opened =>
      rw [lifecycle] at notOpen
      cases notOpen
  | draining => rfl
  | closed => exact absurd lifecycle notClosed

/-- In whatever state the hub is, an event comes to those who want it and to nobody else; whoever is
left out of them is draining. -/
theorem fanout_run (config : HubConfig) (actions : List Action) (event : Event) :
    ((idle config).run actions).hub.Fanout event ∧
      ((∀ action ∈ actions, action.isWhole = true) →
        {id | ((idle config).run actions).hub.Wants event id ∧
          (((idle config).run actions).hub.get? id).map Connection.state =
            some .draining}.encard =
          (((idle config).run actions).hub.route event).2.skipped) := by
  have fanout := (sound_run (sound_idle config) actions).fanout event
  refine ⟨fanout, fun whole => ?_⟩
  rw [← fanout.skipped]
  congr 1
  ext id
  refine and_congr_right fun wants => ⟨fun draining => ?_, state_of_wanting config whole wants⟩
  obtain ⟨connection, found, state⟩ := Option.map_eq_some_iff.1 draining
  rw [Hub.isOpen, found, Option.any_some, Connection.isOpen]
  cases lifecycle : connection.lifecycle with
  | opened =>
      rw [Connection.state, lifecycle] at state
      cases paused : connection.buffer.paused <;> simp [paused] at state
  | draining | closed => rfl

/-- One of two listeners is on its way out. -/
def oneLeaving : List Action :=
  [.hub (.register "c" { subject := "s" } 1), .hub (.register "d" { subject := "s" } 1),
    .hub (.subscribe "c" ["alert"] ["west"]), .hub (.subscribe "d" ["alert"] []),
    .hub (.beginDraining "c" .serverShutdown)]

theorem fanout_run_leaving :
    {id | ((idle {}).run oneLeaving).hub.Wants ⟨"alert", "west", .null, 0⟩ id ∧
      (((idle {}).run oneLeaving).hub.get? id).map Connection.state = some .draining}.encard = 1 ∧
      (((idle {}).run oneLeaving).hub.route ⟨"alert", "west", .null, 0⟩).2 =
        { matched := 2, delivered := 1, skipped := 1 } := by
  have draining := (fanout_run {} oneLeaving ⟨"alert", "west", .null, 0⟩).2 (by decide)
  have report : (((idle {}).run oneLeaving).hub.route ⟨"alert", "west", .null, 0⟩).2 =
      { matched := 2, delivered := 1, skipped := 1 } := by decide
  rw [report] at draining
  exact ⟨draining, report⟩

end LiveHub

end EventHub
