import EventHub.Proofs.Hub.Life

/-!
What the hub does to a connection, as deeds of the connection's life. The requests to close among
them are those of the log, with the same answers.
-/

namespace EventHub

theorem Connection.lives_tend (upkeep : Upkeep) (connection : Connection) :
    connection.Lives [.tend upkeep] [] (upkeep.apply connection) :=
  .one (by simp)

/-- A turn of the monitor ticks, and then may ping or give the connection up. -/
theorem Connection.lives_attend (config : HeartbeatConfig) (now : Instant) (stamp : UInt64)
    (connection : Connection) :
    ∃ deeds, connection.Lives deeds [] (connection.attend config now stamp).1 := by
  have beats := connection.lives_tend (.beat config now)
  simp only [attend]
  cases ticking : connection.heartbeatTick config now with
  | mk ticked action =>
      rw [Upkeep.apply, ticking] at beats
      cases action with
      | wait | evict => exact ⟨_, beats⟩
      | sendPing =>
          simp only [tryPing]
          cases sends : ticked.sendControl (.ping stamp) with
          | ok pinged =>
              have sent := ticked.lives_tend (.sendControl (.ping stamp))
              rw [Upkeep.apply_sendControl, sends] at sent
              exact ⟨_, beats.trans sent⟩
          | error cause => exact ⟨_, beats.trans (ticked.lives_tend .markDead)⟩

namespace Standing

/-- What has become of a connection; one that was not there before is as the hub creates it and has
lived from then on. -/
inductive Lives (config : HubConfig) (id : ConnectionId) (before after : Standing)
    (answers : List (CloseReason × Bool)) : Prop where
  | absent (unknown : before.connection = .none) (still : after.connection = .none)
      (unasked : answers = []) : Lives config id before after answers
  | comes {identity : Identity} {version : UInt32} {deeds : List Connection.Deed}
      {connection : Connection} (unknown : before.connection = .none)
      (found : after.connection = some connection)
      (lives : (Connection.create config id identity version).Lives deeds answers connection) :
      Lives config id before after answers
  | goesOn {connection next : Connection} {deeds : List Connection.Deed}
      (found : before.connection = some connection) (becomes : after.connection = some next)
      (lives : connection.Lives deeds answers next) : Lives config id before after answers

namespace Lives

variable {config : HubConfig} {id : ConnectionId} {before middle after : Standing}
  {answers more : List (CloseReason × Bool)}

theorem of_connection_eq (same : after.connection = before.connection) :
    Lives config id before after [] := by
  cases found : before.connection with
  | none => exact .absent found (same.trans found) rfl
  | some connection => exact .goesOn found (same.trans found) (.done connection)

theorem trans (first : Lives config id before middle answers)
    (second : Lives config id middle after more) :
    Lives config id before after (answers ++ more) := by
  cases first with
  | absent unknown still unasked =>
      subst unasked
      cases second with
      | absent _ absent unasked => exact .absent unknown absent unasked
      | comes _ found lives => exact .comes unknown found lives
      | goesOn found _ _ => cases still.symm.trans found
  | comes unknown found lives =>
      cases second with
      | absent unfound _ _ => cases unfound.symm.trans found
      | comes unfound _ _ => cases unfound.symm.trans found
      | goesOn present becomes later =>
          cases present.symm.trans found
          exact .comes unknown becomes (lives.trans later)
  | goesOn found becomes lives =>
      cases second with
      | absent unfound _ _ => cases unfound.symm.trans becomes
      | comes unfound _ _ => cases unfound.symm.trans becomes
      | goesOn present last later =>
          cases present.symm.trans becomes
          exact .goesOn found last (lives.trans later)

theorem amend {change : Connection → Connection}
    (lives : ∀ connection, before.connection = some connection →
      ∃ deeds, connection.Lives deeds answers (change connection))
    (unasked : before.connection = .none → answers = []) :
    Lives config id before (before.amend change) answers := by
  cases found : before.connection with
  | none =>
      refine .absent found ?_ (unasked found)
      rw [Standing.amend, found, Option.map_none]
  | some connection =>
      obtain ⟨deeds, lived⟩ := lives connection found
      refine .goesOn found ?_ lived
      rw [Standing.amend, found, Option.map_some]

theorem amend_silent {change : Connection → Connection}
    (lives : ∀ connection : Connection, ∃ deeds, connection.Lives deeds [] (change connection)) :
    Lives config id before (before.amend change) [] :=
  amend (fun connection _ => lives connection) fun _ => rfl

theorem markClosed (closing : ∀ connection, before.connection = some connection →
      connection.isOpen = false) :
    Lives config id before (before.amend Connection.markClosed) [] :=
  amend (fun connection found => ⟨[.markClosed], .one fun _ => closing connection found⟩)
    fun _ => rfl

theorem visit (heartbeat : HeartbeatConfig) (now : Instant) (stamp : UInt64) :
    Lives config id before (before.visit heartbeat now stamp) [] := by
  rw [Standing.visit]
  split
  · exact amend_silent fun connection => connection.lives_attend heartbeat now stamp
  · exact of_connection_eq rfl

theorem offer (event : Event) : Lives config id before (before.offer event) [] := by
  rw [Standing.offer]
  split
  · refine amend_silent fun connection => ⟨[.enqueue event.toPayload], ?_⟩
    rw [← connection.undergo_enqueue]
    exact .one (by simp)
  · exact of_connection_eq rfl

end Lives

end Standing

/-- What the hub does, or a session, other than a part of a close. -/
def Hub.Operation.isFair : Hub.Operation → Bool
  | .report (.crossed _ _) => true
  | operation => operation.isWhole

theorem Hub.Operation.isFair_of_isWhole {operation : Hub.Operation}
    (whole : operation.isWhole = true) : operation.isFair = true := by
  cases operation with
  | report entry => cases whole
  | _ => exact whole

namespace Hub

/-- What has become of the connection `id`, while these close calls were made. -/
structure Handles (id : ConnectionId) (hub : Hub) (calls : List CloseCall) (next : Hub) :
    Prop where
  wellFormed : next.WellFormed
  config : next.config = hub.config
  lives : Standing.Lives hub.config id (hub.standing id) (next.standing id)
    (CloseCall.drains id calls)

variable {hub middle next : Hub} {id key : ConnectionId} {calls more : List CloseCall}
  {change : ConnectionId → Standing → Standing} {turn : Standing → Standing}

namespace Handles

theorem refl (wellFormed : hub.WellFormed) : Handles id hub [] hub :=
  ⟨wellFormed, rfl, .of_connection_eq rfl⟩

theorem trans (first : Handles id hub calls middle) (second : Handles id middle more next) :
    Handles id hub (calls ++ more) next where
  wellFormed := second.wellFormed
  config := second.config.trans first.config
  lives := by
    have later := second.lives
    rw [first.config] at later
    rw [CloseCall.drains_append]
    exact first.lives.trans later

theorem of_effect (effect : Effect hub next change)
    (lives : Standing.Lives hub.config id (hub.standing id) (change id (hub.standing id))
      (CloseCall.drains id calls)) : Handles id hub calls next :=
  ⟨effect.wellFormed, effect.config, effect.standing id ▸ lives⟩

theorem of_onlyAt (effect : Effect hub next (Standing.onlyAt key turn))
    (own : ∀ call ∈ calls, call.id = key)
    (lives : Standing.Lives hub.config key (hub.standing key) (turn (hub.standing key))
      (CloseCall.drains key calls)) : Handles id hub calls next := by
  refine of_effect effect ?_
  by_cases same : id = key
  · subst same
    rw [Standing.onlyAt_self]
    exact lives
  · rw [Standing.onlyAt, if_neg same, CloseCall.drains_of_other own (Ne.symm same)]
    exact .of_connection_eq rfl

theorem of_silent (effect : Effect hub next (Standing.onlyAt key turn))
    (lives : Standing.Lives hub.config key (hub.standing key) (turn (hub.standing key)) []) :
    Handles id hub [] next :=
  of_onlyAt effect nofun lives

end Handles

theorem drains_drainCalls (hub : Hub) (key : ConnectionId) (reason : CloseReason) :
    CloseCall.drains key (hub.drainCalls key reason) =
      ((hub.get? key).bind fun connection =>
        connection.answer? (.beginDraining reason)).toList := by
  rw [CloseCall.drains, CloseCall.about_of_own fun _ => id_of_mem_drainCalls, drainCalls]
  cases hub.get? key with
  | none => rfl
  | some connection => rfl

theorem drains_closeCalls (hub : Hub) (key : ConnectionId) (reason : CloseReason) :
    CloseCall.drains key (hub.closeCalls key reason) =
      if hub.isRegistered key then CloseCall.drains key (hub.drainCalls key reason) else [] := by
  cases registered : hub.isRegistered key with
  | false =>
      rw [closeCalls_of_unregistered registered, if_neg Bool.false_ne_true, CloseCall.drains,
        CloseCall.about_of_own fun call member => by rw [List.mem_singleton.1 member]; rfl]
      rfl
  | true =>
      rw [closeCalls, if_pos registered, if_pos rfl, CloseCall.drains_append]
      have silent : CloseCall.drains key [.close key reason (hub.close key reason).2] = [] := by
        rw [CloseCall.drains, CloseCall.about_of_own fun call member => by
          rw [List.mem_singleton.1 member]; rfl]
        rfl
      rw [silent, List.append_nil]

variable (wellFormed : hub.WellFormed)
include wellFormed

theorem handles_beginDraining (key : ConnectionId) (reason : CloseReason) :
    Handles id hub (hub.drainCalls key reason) (hub.beginDraining key reason).1 := by
  refine .of_onlyAt (effect_beginDraining wellFormed key reason)
    (fun _ => id_of_mem_drainCalls) ?_
  rw [drains_drainCalls]
  refine .amend (fun connection found => ⟨[.beginDraining reason], ?_⟩) fun unknown => ?_
  · have present : hub.get? key = some connection := found
    rw [present]
    exact .one (by simp)
  · have absent : hub.get? key = none := unknown
    rw [absent]
    rfl

theorem handles_beginClose (key : ConnectionId) (reason : CloseReason) :
    Handles id hub (hub.closeCalls key reason) ((hub.beginClose? key reason).getD hub) := by
  refine .of_onlyAt (effect_beginClose wellFormed key reason) (fun _ => id_of_mem_closeCalls) ?_
  rw [drains_closeCalls, Standing.leave]
  by_cases registered : hub.isRegistered key = true
  · have isRegistered : (hub.standing key).registered = true := registered
    rw [if_pos isRegistered, if_pos registered]
    have drains : Handles key hub _ _ := handles_beginDraining wellFormed key reason
    have drained := drains.lives
    rw [(effect_beginDraining wellFormed key reason).standing, Standing.onlyAt_self] at drained
    have left : Standing.Lives hub.config key (hub.standing key)
        { connection := ((hub.standing key).beginDraining reason).connection
          registered := false
          holding := (hub.standing key).holding.clear } _ := drained.trans (.of_connection_eq rfl)
    rw [List.append_nil] at left
    exact left
  · have unregistered : ¬(hub.standing key).registered = true := registered
    rw [if_neg unregistered, if_neg registered]
    exact .of_connection_eq rfl

theorem handles_finishClose (key : ConnectionId) (asked : CloseReason)
    (closing : key = id → ∀ connection, hub.get? key = some connection →
      connection.isOpen = false) :
    Handles id hub [] (hub.finishClose key asked) := by
  refine .of_effect (effect_finishClose wellFormed key asked) ?_
  rw [Standing.onlyAt]
  split
  · rename_i same
    subst same
    exact .markClosed (closing rfl)
  · exact .of_connection_eq rfl

theorem isOpen_of_beginClose? {reason : CloseReason}
    (begun : hub.beginClose? key reason = some next) {connection : Connection}
    (found : next.get? key = some connection) : connection.isOpen = false := by
  have registered : (hub.standing key).registered = true := by
    have isSome := hub.isSome_beginClose? key reason
    rw [begun] at isSome
    exact isSome.symm
  have effect := effect_beginClose wellFormed key reason
  rw [begun, Option.getD_some] at effect
  have left := congrArg Standing.connection (effect.standing key)
  rw [Standing.onlyAt_self, Standing.leave, if_pos registered] at left
  obtain ⟨before, -, rfl⟩ := Option.map_eq_some_iff.1 (left.symm.trans found)
  exact before.isOpen_beginDraining reason

theorem handles_close (key : ConnectionId) (reason : CloseReason) :
    Handles id hub (hub.closeCalls key reason) (hub.close key reason).1 := by
  have begins : Handles id hub _ _ := handles_beginClose wellFormed key reason
  rw [close]
  cases begun : hub.beginClose? key reason with
  | none =>
      rw [begun] at begins
      exact begins
  | some closing =>
      rw [begun] at begins
      have ends : Handles id closing _ _ := handles_finishClose begins.wellFormed key reason
        fun _ _ => isOpen_of_beginClose? wellFormed begun
      have closes := begins.trans ends
      rw [List.append_nil] at closes
      exact closes

omit wellFormed in
theorem handles_closeAll (wellFormed : hub.WellFormed) (reason : CloseReason)
    (keys : List ConnectionId) :
    Handles id hub (hub.closeAllCalls reason keys) (hub.closeAll reason keys) := by
  induction keys generalizing hub with
  | nil => exact .refl wellFormed
  | cons key rest ih =>
      have closed : Handles id hub _ _ := handles_close wellFormed key reason
      exact closed.trans (ih closed.wellFormed)

theorem handles_survey (now : Instant) (stamp : UInt64) :
    Handles id hub [] (hub.survey now stamp).1 :=
  .of_effect (effect_survey wellFormed now stamp) (.visit _ now stamp)

theorem handles_apply {operation : Operation} (fair : operation.isFair = true) :
    Handles id hub (hub.calls operation) (hub.apply operation) := by
  cases operation with
  | register key identity version =>
      refine .of_effect (effect_admission wellFormed key identity version) ?_
      split
      · rename_i concerned
        exact .comes (get?_eq_none_of_concerns concerned) rfl (.done _)
      · exact .of_connection_eq rfl
  | subscribe key events clusters =>
      exact .of_silent (effect_subscribe wellFormed key events clusters)
        (.of_connection_eq (Standing.connection_subscribe _ _ events clusters))
  | unsubscribe key events =>
      exact .of_silent (effect_unsubscribe wellFormed key events) (.of_connection_eq rfl)
  | route event => exact .of_effect (effect_route wellFormed event) (.offer event)
  | dequeue key =>
      exact .of_silent (effect_modify wellFormed key _ fun _ => rfl)
        (.amend_silent fun connection => ⟨[.dequeue], .one (by simp)⟩)
  | clear key =>
      exact .of_silent (effect_modify wellFormed key _ fun _ => rfl)
        (.amend_silent fun connection => ⟨[.clear], .one (by simp)⟩)
  | tend key upkeep =>
      exact .of_silent (effect_modify wellFormed key _ upkeep.id_apply)
        (.amend_silent fun connection => ⟨_, connection.lives_tend upkeep⟩)
  | beginDraining key reason => exact handles_beginDraining wellFormed key reason
  | close key reason => exact handles_close wellFormed key reason
  | survey now stamp => exact handles_survey wellFormed now stamp
  | tick now stamp =>
      have surveyed : Handles id hub _ _ := handles_survey wellFormed now stamp
      exact surveyed.trans (handles_closeAll surveyed.wellFormed .heartbeatTimeout _)
  | shutdown => exact handles_closeAll wellFormed .serverShutdown hub.registered
  | report entry => exact .of_effect (effect_report wellFormed entry) (.of_connection_eq rfl)
  | markClosed key => cases fair
  | beginClose key reason => cases fair
  | finishClose key asked => cases fair

end Hub

end EventHub
