import EventHub.Proofs.Live.Advance
import EventHub.Proofs.Session.Closing

/-!
How connections come to their end in a hub at work. Whoever closes a connection first, the server,
the monitor, a shutdown, its client or its own session: one close takes it out, the first request
gives the reason, and everybody who tells the reason tells that one.
-/

namespace EventHub.LiveHub

/-- How many closes of a connection have begun and wait for its session. -/
def awaited (live : LiveHub) (id : ConnectionId) : Nat :=
  live.closings.countP fun closing => closing.id = id

variable {live next : LiveHub} {id key : ConnectionId} {calls log : List CloseCall}
  {reason : CloseReason}

/-! The hub and the closes that wait. -/

theorem heard_beginClose (heard : live.hub.Heard id log (live.awaited id)) (key : ConnectionId)
    (reason : CloseReason) :
    ((live.beginClose? key reason).getD live).hub.Heard id (log ++ live.hub.closeCalls key reason)
      (((live.beginClose? key reason).getD live).awaited id) := by
  rw [beginClose?]
  cases begun : live.hub.beginClose? key reason with
  | none => exact heard.refuse begun
  | some hub =>
      have closing := heard.beginClose begun
      simpa [awaited, List.countP_append, List.countP_cons] using closing

theorem awaited_pos {closing : Closing} (waits : closing ∈ live.closings)
    (isId : closing.id = id) : 0 < live.awaited id :=
  List.countP_pos_iff.2 ⟨closing, waits, decide_eq_true isId⟩

/-- A connection is waited for once, so that ending one close ends all of its closes. -/
theorem heard_finishStep (heard : live.hub.Heard id log (live.awaited id))
    (steps : live.finishStep key = some next) : next.hub.Heard id log (next.awaited id) := by
  obtain ⟨closing, waits, isKey, rfl⟩ := closing_of_finishStep steps
  refine Hub.Heard.finishClose ?_ closing.reason
  by_cases same : key = id
  · subst same
    have once : live.awaited key = 1 :=
      Nat.le_antisymm heard.waiting_le (awaited_pos waits isKey)
    have ended : (live.closings.filter fun other => other.id ≠ key).countP
        (fun other => other.id = key) = 0 := by
      simp [List.countP_eq_zero]
    rw [once] at heard
    rw [if_pos rfl, awaited, ended]
    exact heard
  · have others : (live.closings.filter fun other => other.id ≠ key).countP
        (fun other => other.id = id) = live.awaited id := by
      rw [List.countP_filter, awaited]
      refine List.countP_congr fun other _ => ?_
      simp only [decide_eq_true_eq, Bool.and_eq_true]
      exact ⟨And.left, fun isId => ⟨isId, isId ▸ Ne.symm same⟩⟩
    rw [if_neg same, awaited, others]
    exact heard

theorem Advances.heard (advances : live.Advances calls next)
    (heard : live.hub.Heard id log (live.awaited id)) :
    next.hub.Heard id (log ++ calls) (next.awaited id) := by
  induction advances generalizing log with
  | rests hub closings =>
      rw [hub, awaited, closings, List.append_nil]
      exact heard
  | operates operation fair hub closings =>
      rw [hub, awaited, closings]
      cases operation with
      | report entry =>
          cases entry with
          | crossed other crossing =>
              have reported := Hub.calm_reportCrossing heard.wellFormed other (some crossing)
              rw [Hub.calls, List.append_nil]
              exact heard.calm reported
          | _ => cases fair
      | _ => exact heard.apply fair
  | begins live key reason => exact heard_beginClose heard key reason
  | ends steps =>
      rw [List.append_nil]
      exact heard_finishStep heard steps
  | trans _ _ first second =>
      rw [← List.append_assoc]
      exact second (first heard)

/-! The session of the connection. -/

/-- What the session of the connection does about its end follows the reason on record. -/
def Candid (live : LiveHub) (id : ConnectionId) : Prop :=
  ∀ session, live.sessions.get? id = some session →
    session.Faithful (live.hub.standing id).closeReason

theorem candid_of_same (next : LiveHub) (candid : live.Candid id)
    (kept : ∀ reason, (live.hub.standing id).closeReason = some reason →
      (next.hub.standing id).closeReason = some reason)
    (sessions : next.sessions.get? id = live.sessions.get? id) : next.Candid id := by
  intro session found
  rw [sessions] at found
  exact (candid session found).mono kept

/-- The hub at work is where the log says with the connection `id`, and so is its session. -/
structure Agrees (id : ConnectionId) (log : List CloseCall) (live : LiveHub) : Prop where
  staffed : live.Staffed
  regular : (live.hub.standing id).Regular
  heard : live.hub.Heard id log (live.awaited id)
  candid : live.Candid id

namespace Agrees

theorem faithful (agrees : live.Agrees id log) {client : Client}
    (present : live.client? id = some client) : client.Faithful := by
  obtain ⟨connection, session⟩ := client?_eq_some_iff.1 present
  have faithful := agrees.candid client.session session
  rw [Hub.closeReason_standing connection] at faithful
  exact ⟨agrees.heard.recorded agrees.regular connection, faithful⟩

theorem candid_act (agrees : live.Agrees id log) {action : Action}
    (kept : ∀ reason, (live.hub.standing id).closeReason = some reason →
      ((live.act action).hub.standing id).closeReason = some reason) :
    (live.act action).Candid id := by
  -- Only what is a turn of the client itself can touch its session.
  have same := candid_of_same (live.act action) agrees.candid kept
  cases buffered : live.buffered? id action with
  | some payload =>
      obtain ⟨connection, -, -, -, sessions⟩ := get?_of_buffered agrees.staffed buffered
      exact same (by rw [sessions])
  | none =>
      cases spares : action.spares id with
      | false =>
          cases action with
          | hub operation => exact same rfl
          | _ => cases spares
      | true =>
          cases concern_act agrees.staffed spares buffered with
          | apart _ sessions => exact same sessions
          | starts _ _ silent after =>
              intro session found
              cases (client?_eq_some_iff.1 after).2.symm.trans found
              exact Session.faithful_fresh id silent _
          | turns before turn after _ =>
              obtain ⟨connection, isLast⟩ := client?_eq_some_iff.1 after
              intro session found
              cases isLast.symm.trans found
              have faithful := agrees.faithful before
              rw [Hub.closeReason_standing (client?_eq_some_iff.1 before).1,
                Hub.closeReason_standing connection] at kept
              rw [Hub.closeReason_standing connection]
              rcases turn with turns | ⟨failAfter, stallAfter, -, rfl⟩
              · exact faithful.turns kept turns
              · exact faithful.session.goesOn faithful.session.flushing fun _ member => member

theorem act (agrees : live.Agrees id log) {action : Action} (whole : action.isWhole = true) :
    (live.act action).Agrees id (log ++ live.calls action) := by
  have heard := (advances_act agrees.staffed whole).heard agrees.heard
  obtain ⟨operations, reached⟩ := hub_act agrees.staffed.wellFormed action
  refine ⟨agrees.staffed.act action, ?_, heard, ?_⟩
  · rw [reached]
    exact Hub.regular_run agrees.staffed.wellFormed agrees.regular operations
  · exact agrees.candid_act (agrees.heard.closeReason_eq heard)

theorem run (agrees : live.Agrees id log) {actions : List Action}
    (whole : ∀ action ∈ actions, action.isWhole = true) :
    (live.run actions).Agrees id (log ++ live.log actions) := by
  induction actions generalizing live log with
  | nil =>
      rw [LiveHub.log, List.append_nil]
      exact agrees
  | cons action rest ih =>
      obtain ⟨isWhole, whole⟩ := List.forall_mem_cons.1 whole
      rw [LiveHub.log, ← List.append_assoc]
      exact ih (agrees.act isWhole) whole

end Agrees

theorem agrees_idle (config : HubConfig) (id : ConnectionId) : (idle config).Agrees id [] where
  staffed := staffed_idle config
  regular := fun _ absent => nomatch absent
  heard := .of_idle config id
  candid := fun _ absent => nomatch absent

/-- A close that waits ends at its deadline at the latest. -/
theorem hub_run_of_due {closing : Closing}
    (only : (live.closings.filter fun closing => closing.id = id) = [closing])
    {clock : Instant} (due : closing.deadline ≤ clock) (wallClock : Instant) :
    (live.run [.passTime clock wallClock, .work (.close id)]).hub =
      live.hub.finishClose id closing.reason := by
  have waits : (live.closings.find? fun closing => closing.id == id) = some closing := by
    rw [← List.head?_filter]
    exact congrArg List.head? only
  have canFinish : canFinish { live with clock, wallClock } closing = true := by
    simp [LiveHub.canFinish, due]
  rw [run_cons, run_cons, run_nil, act, act, taskStep, finishStep, waits]
  simp only [canFinish, if_true, Option.getD_some]

/-- How a connection that has left came to its end: one close took it out, the first request gave
the reason, and its report, its goodbye and the outcome of its session carry that reason. The report
comes once, at the end of the close that took the connection out. -/
structure Closed (live : LiveHub) (id : ConnectionId) (log : List CloseCall)
    (reason : CloseReason) : Prop where
  removed : (CloseCall.about id log).countP CloseCall.removes = 1
  requested : ∃ later,
    (CloseCall.about id log).filterMap CloseCall.drain? = (reason, true) :: later ∧
      ∀ drain ∈ later, drain.2 = false
  recorded : (live.hub.get? id).bind Connection.closeReason = some reason
  reported : live.hub.reasonsFor id = [reason] ∨
    live.hub.reasonsFor id = [] ∧ ∃ closing,
      (live.closings.filter fun closing => closing.id = id) = [closing] ∧
      ∀ clock wallClock, closing.deadline ≤ clock →
        (live.run [.passTime clock wallClock, .work (.close id)]).hub.reasonsFor id = [reason]
  goodbye : ∀ session, live.sessions.get? id = some session →
    ∀ frame, .close frame ∈ session.sink.written → frame = reason.frame
  outcome : ∀ session, live.sessions.get? id = some session →
    ∀ told, session.ended? = some told → told = reason

theorem Agrees.closed (agrees : live.Agrees id log) (known : (live.hub.get? id).isSome = true)
    (unregistered : live.hub.isRegistered id = false) : ∃ reason, live.Closed id log reason := by
  obtain ⟨connection, found⟩ := Option.isSome_iff_exists.1 known
  obtain ⟨parting, answers, parts⟩ := agrees.heard.parts
  obtain ⟨reason, rfl⟩ := parts.of_unregistered unregistered found
  have given : (live.hub.standing id).closeReason = some reason := parts.closeReason
  have removed : (CloseCall.about id log).countP CloseCall.removes = 1 := by
    have removals := answers.removals_eq
    rwa [Parting.removals, Nat.zero_add] at removals
  refine ⟨reason, removed, answers.drains rfl rfl, given, ?_, ?_, ?_⟩
  · have settled := agrees.heard.settled
    rw [removed] at settled
    cases reasons : live.hub.reasonsFor id with
    | nil =>
        have once : (live.closings.filter fun closing => closing.id = id).length = 1 := by
          rw [← List.countP_eq_length_filter]
          simpa [reasons, awaited] using settled
        obtain ⟨closing, only⟩ := List.length_eq_one_iff.1 once
        refine .inr ⟨rfl, closing, only, fun clock wallClock due => ?_⟩
        rw [hub_run_of_due only due, Hub.reasonsFor_finishClose given, reasons]
    | cons first rest =>
        refine .inl ?_
        have isReason := agrees.heard.agreed first (by rw [reasons]; exact List.mem_cons_self)
        cases given.symm.trans isReason
        rw [reasons, List.length_cons] at settled
        have single : rest.length = 0 := by omega
        rw [List.eq_nil_of_length_eq_zero single]
  · intro session served frame written
    obtain ⟨said, isReason, rfl⟩ := (agrees.candid session served).frames frame written
    cases given.symm.trans isReason
    rfl
  · intro session served told ended
    have isReason := (agrees.candid session served).ended told ended
    cases given.symm.trans isReason
    rfl

/-- Whatever closes connections in a hub at work, in whatever order: each one that has left was
closed once, with one reason, and the evictions are counted by the reasons that were reported. -/
theorem closed_once (config : HubConfig) (actions : List Action)
    (whole : ∀ action ∈ actions, action.isWhole = true) :
    ((idle config).run actions).hub.Tallied ∧
      ∀ id, (((idle config).run actions).hub.get? id).isSome = true →
        ((idle config).run actions).hub.isRegistered id = false →
        ∃ reason, ((idle config).run actions).Closed id ((idle config).log actions) reason := by
  have agrees (id : ConnectionId) := (agrees_idle config id).run whole
  -- The statistic is the same whichever connection one looks at.
  exact ⟨(agrees "").heard.tallied, fun id => (agrees id).closed⟩

/-- The client leaves, and its session asks for the close; a shutdown and an eviction come late. -/
theorem closed_once_leaving :
    ((idle {}).run [.hub (.register "c" { subject := "s" } 1), .startSession "c" none none,
        .receive "c" .close, .work (.receive "c"), .work (.supervise "c"),
        .beginClose "c" .serverShutdown, .hub (.close "c" .heartbeatTimeout)]).Closed "c"
      ((idle {}).log [.hub (.register "c" { subject := "s" } 1), .startSession "c" none none,
        .receive "c" .close, .work (.receive "c"), .work (.supervise "c"),
        .beginClose "c" .serverShutdown, .hub (.close "c" .heartbeatTimeout)])
      .clientInitiated := by
  obtain ⟨reason, closed⟩ := (closed_once {} [.hub (.register "c" { subject := "s" } 1),
    .startSession "c" none none, .receive "c" .close, .work (.receive "c"), .work (.supervise "c"),
    .beginClose "c" .serverShutdown, .hub (.close "c" .heartbeatTimeout)]
    (by decide)).2 "c" (by decide) (by decide)
  have recorded : some reason = some .clientInitiated := closed.recorded.symm.trans (by decide)
  cases recorded
  exact closed

end EventHub.LiveHub
