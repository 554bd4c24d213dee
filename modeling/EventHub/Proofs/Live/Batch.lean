import EventHub.Proofs.Hub.Pass
import EventHub.Proofs.Live.Statistics
import EventHub.Proofs.Live.Teardown
import EventHub.Proofs.Live.Waiting

/-!
Closes that begin together and are awaited. Each waits for its own session, some of which come to
their end meanwhile and close their connection themselves. However they interleave, every connection
is closed once and for the reason that was given first, and nobody waits for longer than one grace
period.
-/

namespace EventHub

namespace Hub

def isClosed (hub : Hub) (id : ConnectionId) : Bool :=
  (hub.get? id).any fun connection => connection.lifecycle = .closed

variable {hub next : Hub} {id : ConnectionId} {calls : List CloseCall}

theorem isClosed_iff : hub.isClosed id = true ↔
    ∃ connection, hub.get? id = some connection ∧ connection.lifecycle = .closed := by
  simp [isClosed, Option.any_eq_true]

/-- Nothing comes after the end. -/
theorem Handles.isClosed (handles : Handles id hub calls next) (closed : hub.isClosed id = true) :
    next.isClosed id = true := by
  obtain ⟨connection, found, isEnd⟩ := isClosed_iff.1 closed
  obtain ⟨later, deeds, answers, becomes, lives⟩ := handles.goesOn found
  have aged := lives.age_le
  rw [isEnd] at aged
  refine isClosed_iff.2 ⟨later, becomes, ?_⟩
  cases stage : later.lifecycle with
  | closed => rfl
  | opened | draining => simp [stage, Lifecycle.age] at aged

theorem isClosed_finishClose {connection : Connection} (wellFormed : hub.WellFormed)
    (found : hub.get? id = some connection) (asked : CloseReason) :
    (hub.finishClose id asked).isClosed id = true := by
  have stands := (effect_finishClose wellFormed id asked).standing id
  rw [Standing.onlyAt_self] at stands
  have becomes : (hub.finishClose id asked).get? id = some connection.markClosed :=
    (congrArg Standing.connection stands).trans (congrArg (Option.map _) found)
  exact isClosed_iff.2 ⟨_, becomes, rfl⟩

end Hub

namespace LiveHub

open Hub (Wanes)

variable {live next : LiveHub} {id : ConnectionId} {ids : List ConnectionId}
  {calls log : List CloseCall} {reason : CloseReason}

/-! Who is waited for. -/

/-- Whoever is waited for is waited for still, or has come to its end. -/
theorem Advances.isClosed (advances : live.Advances calls next)
    (heard : live.hub.Heard id log (live.awaited id)) (waits : 0 < live.awaited id) :
    0 < next.awaited id ∨ next.hub.isClosed id = true := by
  induction advances generalizing log with
  | rests hub closings =>
      rw [awaited, closings]
      exact Or.inl waits
  | operates operation fair hub closings =>
      rw [awaited, closings]
      exact Or.inl waits
  | begins live key reason =>
      rw [beginClose?]
      cases live.hub.beginClose? key reason with
      | none => exact Or.inl waits
      | some hub =>
          refine Or.inl (Nat.lt_of_lt_of_le waits ?_)
          rw [Option.map_some, Option.getD_some, awaited, awaited, List.countP_append]
          exact Nat.le_add_right _ _
  | @ends live next key steps =>
      obtain ⟨closing, -, -, rfl⟩ := closing_of_finishStep steps
      by_cases same : key = id
      · subst same
        obtain ⟨waiting, isSucc⟩ := Nat.exists_eq_succ_of_ne_zero (Nat.ne_of_gt waits)
        rw [isSucc] at heard
        obtain ⟨reason, -, parts⟩ := heard.left_of_waiting
        cases parts with
        | left found _ _ _ =>
            exact Or.inr (Hub.isClosed_finishClose heard.wellFormed found closing.reason)
      · refine Or.inl ?_
        obtain ⟨other, member, own⟩ := List.countP_pos_iff.1 waits
        have apart : other.id ≠ key := by
          rw [decide_eq_true_eq] at own
          exact own ▸ Ne.symm same
        exact List.countP_pos_iff.2 ⟨other, List.mem_filter.2 ⟨member, decide_eq_true apart⟩, own⟩
  | trans first second ihFirst ihSecond =>
      rcases ihFirst heard waits with still | ended
      · exact ihSecond (first.heard heard) still
      · exact Or.inr ((second.handles (first.heard heard)).isClosed ended)

theorem Drifts.agrees (drifts : live.Drifts next) (agrees : live.Agrees id log) :
    ∃ more, next.Agrees id (log ++ more) := by
  obtain ⟨actions, unattended, rfl⟩ := drifts
  exact ⟨_, agrees.run fun action member =>
    Action.isWhole_of_isUnattended (unattended action member)⟩

theorem Drifts.isClosed (drifts : live.Drifts next) (agrees : live.Agrees id log)
    (waits : 0 < live.awaited id ∨ live.hub.isClosed id = true) :
    0 < next.awaited id ∨ next.hub.isClosed id = true := by
  obtain ⟨actions, unattended, rfl⟩ := drifts
  induction actions generalizing live log with
  | nil => exact waits
  | cons action rest ih =>
      obtain ⟨first, unattended⟩ := List.forall_mem_cons.1 unattended
      have whole := Action.isWhole_of_isUnattended first
      have advances := advances_act agrees.staffed whole
      refine ih (agrees.act whole) ?_ unattended
      rcases waits with waits | ended
      · exact advances.isClosed agrees.heard waits
      · exact Or.inr ((advances.handles agrees.heard).isClosed ended)

/-! Nobody comes in. -/

theorem registered_receive (staffed : live.Staffed) {key : ConnectionId}
    (steps : live.taskStep (.receive key) = some next) :
    next.hub.isRegistered id = live.hub.isRegistered id := by
  obtain ⟨session, hub, after, -, stepped, rfl⟩ := settleStep_eq_some steps
  have obeyed := Hub.wellFormed_obey staffed.wellFormed session.id (session.command? live.hub)
  have quiet := (Session.chores_receiveStep staffed.wellFormed stepped).quiet obeyed
  rw [quiet.isRegistered, Hub.isRegistered, Hub.registered_obey]
  rfl

theorem registered_act (staffed : live.Staffed) {action : Action}
    (unattended : action.isUnattended = true)
    (registered : (live.act action).hub.isRegistered id = true) :
    live.hub.isRegistered id = true := by
  cases action with
  | beginClose key reason =>
      have begun : Wanes live.hub (live.hub.apply (.beginClose key reason)) :=
        Hub.wanes_apply staffed.wellFormed rfl
      rw [Hub.apply, ← hub_beginClose] at begun
      exact (begun.kept id registered).1
  | passTime clock wallClock => exact registered
  | work task =>
      rcases act_work live task with idle | steps
      · rwa [idle] at registered
      by_cases receives : ∃ key, task = .receive key
      · obtain ⟨key, rfl⟩ := receives
        rwa [registered_receive staffed steps] at registered
      · have wanes := wanes_taskStep staffed steps fun key same => receives ⟨key, same⟩
        exact (wanes.kept id registered).1
  | _ => cases unattended

theorem Drifts.registered (drifts : live.Drifts next) (staffed : live.Staffed)
    (registered : next.hub.isRegistered id = true) : live.hub.isRegistered id = true := by
  obtain ⟨actions, unattended, rfl⟩ := drifts
  induction actions generalizing live with
  | nil => exact registered
  | cons action rest ih =>
      obtain ⟨first, unattended⟩ := List.forall_mem_cons.1 unattended
      exact registered_act staffed first (ih (staffed.act action) unattended registered)

/-! The closes begin. -/

theorem hub_beginCloses (live : LiveHub) (reason : CloseReason) (ids : List ConnectionId) :
    (live.beginCloses reason ids).hub =
      live.hub.run ((ids.map ClosePart.begins).map (ClosePart.operation reason)) := by
  induction ids generalizing live with
  | nil => rfl
  | cons id rest ih =>
      have begun : ((live.beginClose? id reason).getD live).hub =
          live.hub.apply (.beginClose id reason) := by
        rw [beginClose?, Hub.apply]
        cases live.hub.beginClose? id reason <;> rfl
      rw [beginCloses, List.foldl_cons, List.map_cons, List.map_cons, Hub.run_cons]
      exact (ih _).trans (congrArg (Hub.run · _) begun)

theorem closing_beginCloses (live : LiveHub) (reason : CloseReason) {ids : List ConnectionId}
    (wellFormed : live.hub.WellFormed) (distinct : ids.Nodup)
    (registered : ∀ id ∈ ids, live.hub.isRegistered id = true) :
    ∀ id, (id ∈ ids ∨ ∃ closing ∈ live.closings, closing.id = id) →
      ∃ closing ∈ (live.beginCloses reason ids).closings, closing.id = id := by
  induction ids generalizing live with
  | nil => exact fun id waits => waits.resolve_left List.not_mem_nil
  | cons head rest ih =>
      obtain ⟨absent, distinct⟩ := List.nodup_cons.1 distinct
      obtain ⟨headRegistered, registered⟩ := List.forall_mem_cons.1 registered
      have effect := Hub.effect_beginClose wellFormed head reason
      obtain ⟨closing, begun⟩ := Option.isSome_iff_exists.1
        ((live.hub.isSome_beginClose? head reason).trans headRegistered)
      rw [begun, Option.getD_some] at effect
      intro id waits
      rw [beginCloses, List.foldl_cons, beginClose?, begun]
      refine ih _ effect.wellFormed distinct (fun other member => ?_) id ?_
      · have same := effect.standing other
        rw [Standing.onlyAt, if_neg (ne_of_mem_of_not_mem member absent)] at same
        exact (congrArg Standing.registered same).trans (registered other member)
      · rcases waits with member | ⟨closing, member, own⟩
        · rcases List.mem_cons.1 member with rfl | member
          · exact .inr ⟨_, List.mem_append_right _ (List.mem_singleton.2 rfl), rfl⟩
          · exact .inl member
        · exact .inr ⟨closing, List.mem_append_left _ member, own⟩

theorem standing_beginCloses (live : LiveHub) (reason : CloseReason) {ids : List ConnectionId}
    (wellFormed : live.hub.WellFormed) (distinct : ids.Nodup) (id : ConnectionId) :
    (live.beginCloses reason ids).hub.standing id =
      if id ∈ ids then (live.hub.standing id).leave reason else live.hub.standing id := by
  rw [hub_beginCloses, Hub.standing_run wellFormed, Hub.own_closeParts,
    ClosePart.filter_map_connection (fun _ => rfl) distinct]
  split <;> rfl

theorem Agrees.unawaited (agrees : live.Agrees id log)
    (registered : live.hub.isRegistered id = true) :
    ∀ closing ∈ live.closings, closing.id ≠ id := by
  intro closing waits own
  obtain ⟨waiting, isSucc⟩ :=
    Nat.exists_eq_succ_of_ne_zero (Nat.ne_of_gt (awaited_pos waits own))
  have heard := agrees.heard
  rw [isSucc] at heard
  obtain ⟨reason, -, parts⟩ := heard.left_of_waiting
  cases parts with
  | left _ _ _ unregistered => cases registered.symm.trans unregistered

theorem timely_beginCloses (wellFormed : live.hub.WellFormed) (reason : CloseReason)
    (ids : List ConnectionId)
    (timely : live.Timely id (live.clock + live.hub.config.teardownGrace)) :
    (live.beginCloses reason ids).Timely id (live.clock + live.hub.config.teardownGrace) := by
  have goesOn : ((live.beginCloses reason ids).hub.WellFormed ∧
      (live.beginCloses reason ids).hub.config = live.hub.config) ∧
      (live.beginCloses reason ids).clock = live.clock ∧
      (live.beginCloses reason ids).Timely id (live.clock + live.hub.config.teardownGrace) := by
    refine List.foldlRecOn (motive := fun (state : LiveHub) =>
      (state.hub.WellFormed ∧ state.hub.config = live.hub.config) ∧ state.clock = live.clock ∧
        state.Timely id (live.clock + live.hub.config.teardownGrace)) _ _
      ⟨⟨wellFormed, rfl⟩, rfl, timely⟩ fun state ⟨⟨formed, config⟩, clock, timely⟩ key _ => ?_
    rw [beginClose?]
    have effect := Hub.effect_beginClose formed key reason
    cases begun : state.hub.beginClose? key reason with
    | none => exact ⟨⟨formed, config⟩, clock, timely⟩
    | some hub =>
        rw [begun, Option.getD_some] at effect
        refine ⟨⟨effect.wellFormed, effect.config.trans config⟩, clock, fun closing waits own => ?_⟩
        rcases List.mem_append.1 waits with waits | begins
        · exact timely closing waits own
        · rw [List.mem_singleton.1 begins, effect.config, config, clock]
  exact goesOn.2.2

/-- What is on record once a close has been asked for: the reason that was given before, if any. -/
theorem Agrees.reason_beginDraining (agrees : live.Agrees id log) {connection : Connection}
    (registered : live.hub.isRegistered id = true) (found : live.hub.get? id = some connection)
    (reason : CloseReason) :
    ∃ given, (connection.isOpen = true → given = reason) ∧
      (connection.isOpen = false → connection.closeReason = some given) ∧
      (connection.beginDraining reason).1.closeReason = some given := by
  obtain ⟨parting, -, parts⟩ := agrees.heard.parts
  cases parts with
  | unknown absent _ => cases absent.symm.trans found
  | stays stored opened unasked _ =>
      cases stored.symm.trans found
      refine ⟨reason, fun _ => rfl, fun closing => ?_,
        (Connection.beginDraining_of_isOpen opened unasked reason).2⟩
      cases opened.symm.trans closing
  | @asked connection given stored closing recorded _ =>
      cases stored.symm.trans found
      refine ⟨given, fun opened => ?_, fun _ => recorded,
        (Connection.beginDraining_of_not_isOpen closing reason).2.trans recorded⟩
      cases closing.symm.trans opened
  | left _ _ _ unregistered => cases registered.symm.trans unregistered

theorem settled_beginDraining (connection : Connection) (reason : CloseReason) :
    (connection.beginDraining reason).1.settled = connection.settled := by
  rw [Connection.beginDraining]
  split <;> rfl

section Begun

variable (reason) (wellFormed : live.hub.WellFormed) (distinct : ids.Nodup)
include wellFormed distinct

theorem standing_begun (member : id ∈ ids) :
    (live.beginCloses reason ids).hub.standing id = (live.hub.standing id).leave reason := by
  rw [standing_beginCloses live reason wellFormed distinct, if_pos member]

theorem unregistered_begun (member : id ∈ ids) :
    (live.beginCloses reason ids).hub.isRegistered id = false := by
  refine (congrArg Standing.registered (standing_begun reason wellFormed distinct member)).trans ?_
  rw [Standing.leave]
  split
  · rfl
  · rename_i unregistered
    exact Bool.eq_false_iff.2 unregistered

variable (registered : ∀ id ∈ ids, live.hub.isRegistered id = true)
include registered

theorem get?_begun {connection : Connection} (member : id ∈ ids)
    (found : live.hub.get? id = some connection) :
    (live.beginCloses reason ids).hub.get? id = some (connection.beginDraining reason).1 := by
  have left := congrArg Standing.connection (standing_begun reason wellFormed distinct member)
  rw [Standing.leave, if_pos (show (live.hub.standing id).registered = true from
    registered id member)] at left
  exact left.trans (congrArg (Option.map _) found)

theorem departed_begun (member : id ∈ ids) :
    (live.beginCloses reason ids).hub.Departed id := by
  obtain ⟨connection, found⟩ :=
    Option.isSome_iff_exists.1 (wellFormed.known id (registered id member))
  have becomes := get?_begun reason wellFormed distinct registered member found
  exact ⟨Option.isSome_iff_exists.2 ⟨_, becomes⟩,
    unregistered_begun reason wellFormed distinct member⟩

theorem awaited_begun (member : id ∈ ids) : 0 < (live.beginCloses reason ids).awaited id := by
  obtain ⟨closing, waits, own⟩ :=
    closing_beginCloses live reason wellFormed distinct registered id (Or.inl member)
  exact awaited_pos waits own

theorem mayFinish_begun (member : id ∈ ids)
    (settled : (live.hub.get? id).all Connection.settled = true) :
    (live.beginCloses reason ids).MayFinish id := by
  obtain ⟨connection, found⟩ :=
    Option.isSome_iff_exists.1 (wellFormed.known id (registered id member))
  rw [found, Option.all_some] at settled
  intro closing _ own
  rw [canFinish, own, get?_begun reason wellFormed distinct registered member found,
    Option.all_some, settled_beginDraining, settled, Bool.true_or]

end Begun

/-! The whole of it. -/

/-- What comes of closes that begin together, and how long it takes. -/
structure SeesThrough (live : LiveHub) (reason : CloseReason) (ids : List ConnectionId)
    (next : LiveHub) : Prop where
  unregistered : ∀ id ∈ ids, next.hub.isRegistered id = false
  closed : ∀ id ∈ ids, ∀ connection, live.hub.get? id = some connection → ∃ given last,
    (connection.isOpen = true → given = reason) ∧
      (connection.isOpen = false → connection.closeReason = some given) ∧
      next.hub.get? id = some last ∧ last.state = .closed ∧
      last.closeReason = some given ∧ next.hub.reasonsFor id = [given]
  since : live.clock ≤ next.clock
  within : next.clock ≤ live.clock + live.hub.config.teardownGrace
  atOnce : (∀ id ∈ ids, (live.hub.get? id).all Connection.settled = true) →
    next.clock = live.clock

/-- Where nobody waits any more, a connection that has left was reported once. -/
theorem Agrees.reasonsFor_eq (agrees : live.Agrees id log)
    (known : (live.hub.get? id).isSome = true) (unregistered : live.hub.isRegistered id = false)
    (unawaited : live.awaited id = 0) {reason : CloseReason}
    (given : (live.hub.standing id).closeReason = some reason) :
    live.hub.reasonsFor id = [reason] := by
  obtain ⟨told, closed⟩ := agrees.closed known unregistered
  cases closed.recorded.symm.trans given
  rcases closed.reported with once | ⟨-, closing, only, -⟩
  · exact once
  · rw [awaited, List.countP_eq_length_filter, only] at unawaited
    cases unawaited

theorem awaited_eq_zero {ids : List ConnectionId} (ended : live.isClosing ids = false)
    (member : id ∈ ids) : live.awaited id = 0 := by
  refine List.countP_eq_zero.2 fun closing waits own => ?_
  rw [decide_eq_true_eq] at own
  exact isClosing_eq_false_iff.1 ended closing waits (own ▸ member)

section Batch

variable (agrees : ∀ id, live.Agrees id log) (distinct : ids.Nodup)
include agrees distinct

/-- Whoever was closed has left when the closes have begun, and nobody comes in meanwhile. -/
theorem unregistered_closeBatch (reason : CloseReason) (member : id ∈ ids) :
    (live.closeBatch reason ids).hub.isRegistered id = false := by
  have staffed := (agrees id).staffed
  have begins := drifts_beginCloses live reason ids
  have awaits := drifts_awaitCloses (live.beginCloses reason ids) ids
  refine Bool.eq_false_iff.2 fun stays => ?_
  have still := awaits.registered (begins.staffed staffed) stays
  cases still.symm.trans (unregistered_begun reason staffed.wellFormed distinct member)

variable (registered : ∀ id ∈ ids, live.hub.isRegistered id = true)
include registered

/-- All the closes are over afterwards, and they wait side by side. -/
theorem ends_closeBatch (reason : CloseReason) :
    (live.closeBatch reason ids).isClosing ids = false ∧
      live.clock ≤ (live.closeBatch reason ids).clock ∧
      (live.closeBatch reason ids).clock ≤ live.clock + live.hub.config.teardownGrace ∧
      ((∀ id ∈ ids, (live.beginCloses reason ids).MayFinish id) →
        (live.closeBatch reason ids).clock = live.clock) := by
  -- The hub is staffed whichever connection one looks at.
  have staffed := (agrees "").staffed
  have wellFormed := staffed.wellFormed
  let begun := live.beginCloses reason ids
  have begins : live.Drifts begun := drifts_beginCloses live reason ids
  have clock : begun.clock = live.clock := clock_beginCloses live reason ids
  have departed : ∀ id ∈ ids, begun.hub.Departed id := fun id member =>
    departed_begun reason wellFormed distinct registered member
  have timely : ∀ id ∈ ids, begun.Timely id (begun.clock + live.hub.config.teardownGrace) := by
    intro id member
    have unawaited := (agrees id).unawaited (registered id member)
    rw [clock]
    exact timely_beginCloses wellFormed reason ids
      fun closing waits own => absurd own (unawaited closing waits)
  have ends := awaitCloses_ends (begins.staffed staffed) departed timely
  rwa [clock] at ends

/-- Everybody who was closed has come to the end that was asked for first. -/
theorem closed_closeBatch (reason : CloseReason) {connection : Connection} (member : id ∈ ids)
    (found : live.hub.get? id = some connection) :
    ∃ given last, (connection.isOpen = true → given = reason) ∧
      (connection.isOpen = false → connection.closeReason = some given) ∧
      (live.closeBatch reason ids).hub.get? id = some last ∧ last.state = .closed ∧
      last.closeReason = some given ∧
      (live.closeBatch reason ids).hub.reasonsFor id = [given] := by
  have wellFormed := (agrees id).staffed.wellFormed
  have begins := drifts_beginCloses live reason ids
  have awaits := drifts_awaitCloses (live.beginCloses reason ids) ids
  obtain ⟨given, opened, closing, recorded⟩ :=
    (agrees id).reason_beginDraining (registered id member) found reason
  obtain ⟨more, agreesBegun⟩ := begins.agrees (agrees id)
  obtain ⟨_, agreesLast⟩ := awaits.agrees agreesBegun
  have becomes := get?_begun reason wellFormed distinct registered member found
  have stays := agreesBegun.heard.closeReason_eq agreesLast.heard given
    ((Hub.closeReason_standing becomes).trans recorded)
  have unawaited := awaited_eq_zero (ends_closeBatch agrees distinct registered reason).1 member
  have isEnd := (awaits.isClosed agreesBegun
    (Or.inl (awaited_begun reason wellFormed distinct registered member))).resolve_left (by
      intro waits
      exact Nat.ne_of_gt waits unawaited)
  obtain ⟨last, isLast, stage⟩ := Hub.isClosed_iff.1 isEnd
  have away := unregistered_closeBatch agrees distinct reason member
  refine ⟨given, last, opened, closing, isLast, ?_, ?_,
    agreesLast.reasonsFor_eq (Option.isSome_iff_exists.2 ⟨last, isLast⟩) away unawaited stays⟩
  · rw [Connection.state, stage]
  · rw [← Hub.closeReason_standing isLast]
    exact stays

theorem seesThrough_closeBatch (reason : CloseReason) :
    live.SeesThrough reason ids (live.closeBatch reason ids) := by
  obtain ⟨-, since, within, atOnce⟩ := ends_closeBatch agrees distinct registered reason
  exact {
    unregistered := fun _ member => unregistered_closeBatch agrees distinct reason member
    closed := fun _ member _ found =>
      closed_closeBatch agrees distinct registered reason member found
    since, within
    atOnce := fun settled => atOnce fun id member =>
      mayFinish_begun reason (agrees id).staffed.wellFormed distinct registered member
        (settled id member) }

end Batch

end LiveHub

end EventHub
