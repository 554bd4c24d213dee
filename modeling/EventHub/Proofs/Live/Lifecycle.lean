import EventHub.Proofs.Live.Closing

/-!
The lifecycle of every connection in a hub at work. Whatever is done to it, by the hub, by its
session or by anybody else, is a life that goes forward only.
-/

namespace EventHub.LiveHub

variable {live next : LiveHub} {id : ConnectionId} {connection : Connection}
  {calls log : List CloseCall}

/-- Only a connection that has left is marked closed, so whatever is done belongs to a life. -/
theorem Advances.handles (advances : live.Advances calls next)
    (heard : live.hub.Heard id log (live.awaited id)) :
    live.hub.Handles id calls next.hub := by
  induction advances generalizing log with
  | rests hub closings =>
      rw [hub]
      exact .refl heard.wellFormed
  | operates operation fair hub closings =>
      rw [hub]
      exact Hub.handles_apply heard.wellFormed fair
  | begins live key reason =>
      rw [hub_beginClose]
      exact Hub.handles_beginClose heard.wellFormed key reason
  | @ends live next key steps =>
      obtain ⟨closing, waits, isKey, rfl⟩ := closing_of_finishStep steps
      refine Hub.handles_finishClose heard.wellFormed key closing.reason ?_
      intro same connection found
      subst same
      have present := awaited_pos waits isKey
      obtain ⟨waiting, isSucc⟩ := Nat.exists_eq_succ_of_ne_zero (Nat.ne_of_gt present)
      rw [isSucc] at heard
      obtain ⟨reason, -, parts⟩ := heard.left_of_waiting
      cases parts with
      | left stored closed _ _ =>
          cases stored.symm.trans found
          exact closed
  | trans first second ihFirst ihSecond =>
      exact (ihFirst heard).trans (ihSecond (first.heard heard))

/-- What has become of a connection in a run, its log tells. -/
theorem handles_run {actions : List Action} (agrees : live.Agrees id log)
    (whole : ∀ action ∈ actions, action.isWhole = true) :
    live.hub.Handles id (live.log actions) (live.run actions).hub := by
  induction actions generalizing live log with
  | nil => exact .refl agrees.staffed.wellFormed
  | cons action rest ih =>
      obtain ⟨isWhole, whole⟩ := List.forall_mem_cons.1 whole
      have advances := advances_act agrees.staffed isWhole
      exact (advances.handles agrees.heard).trans (ih (agrees.act isWhole) whole)

/-- A connection has lived since it was created, every action lets it live on, and so it keeps the
laws of its lifecycle, also under whatever else is done to it. -/
theorem lifecycle_run (config : HubConfig) {actions : List Action}
    (whole : ∀ action ∈ actions, action.isWhole = true)
    (found : ((idle config).run actions).hub.get? id = some connection) :
    (∃ identity version deeds,
      (Connection.create config id identity version).Lives deeds
          (CloseCall.drains id ((idle config).log actions)) connection ∧
        Relation.ReflTransGen Connection.Ages (.create config id identity version) connection) ∧
      (∀ action : Action, action.isWhole = true → ∃ more next,
        (((idle config).run actions).act action).hub.get? id = some next ∧
        connection.Lives more
          (CloseCall.drains id (((idle config).run actions).calls action)) next) ∧
      ∀ more answers last, connection.Lives more answers last →
        last.Lawful (CloseCall.drains id ((idle config).log actions) ++ answers) ∧
        Relation.ReflTransGen Connection.Ages connection last ∧
        connection.lifecycle.age ≤ last.lifecycle.age ∧
        ∀ reason, connection.closeReason = some reason → last.closeReason = some reason := by
  have agrees := agrees_idle config id
  have handles := handles_run agrees whole
  have present : (((idle config).run actions).hub.standing id).connection = some connection := found
  cases handles.lives with
  | absent _ still _ => cases still.symm.trans present
  | goesOn known _ _ => cases known
  | @comes identity version deeds _ _ stored lives =>
      cases stored.symm.trans present
      refine ⟨⟨identity, version, deeds, lives, lives.ages⟩, fun action isWhole => ?_,
        fun more answers last later => ?_⟩
      · have reached := agrees.run whole
        have advances := advances_act reached.staffed isWhole
        cases (advances.handles reached.heard).lives with
        | absent unknown _ _ => cases unknown.symm.trans present
        | comes unknown _ _ => cases unknown.symm.trans present
        | @goesOn _ next more known becomes goesOn =>
            cases known.symm.trans present
            exact ⟨more, next, becomes, goesOn⟩
      · refine ⟨(lives.trans later).lawful, later.ages, later.age_le, fun reason given => ?_⟩
        have fresh : (Connection.create config id identity version).Recorded := ⟨rfl, rfl⟩
        exact (later.closeReason_iff (lives.recorded fresh) reason).2 (.inl given)

/-- The server asks for the close, and an eviction then comes too late to give the reason. -/
theorem lifecycle_run_evicted :
    ∃ connection, ((idle {}).run [.hub (.register "c" { subject := "s" } 1),
        .hub (.beginDraining "c" .serverShutdown),
        .hub (.close "c" .heartbeatTimeout)]).hub.get? "c" = some connection ∧
      connection.Lawful [(.serverShutdown, true), (.heartbeatTimeout, false)] ∧
      connection.state = .closed := by
  obtain ⟨connection, found, closed⟩ : ∃ connection,
      ((idle {}).run [.hub (.register "c" { subject := "s" } 1),
        .hub (.beginDraining "c" .serverShutdown),
        .hub (.close "c" .heartbeatTimeout)]).hub.get? "c" = some connection ∧
      connection.state = .closed := ⟨_, rfl, by decide⟩
  obtain ⟨-, -, laws⟩ := lifecycle_run {} (by decide) found
  have answers : CloseCall.drains "c" ((idle {}).log
      [.hub (.register "c" { subject := "s" } 1), .hub (.beginDraining "c" .serverShutdown),
        .hub (.close "c" .heartbeatTimeout)]) =
      [(.serverShutdown, true), (.heartbeatTimeout, false)] := by decide
  have lawful := (laws [] [] connection (.done connection)).1
  rw [answers] at lawful
  exact ⟨connection, found, lawful, closed⟩

end EventHub.LiveHub
