import EventHub.Proofs.Live.Action

/-!
What an embedding server does with a hub at work, waiting included, is a run of actions. So what
holds of every run holds of the hub that is served.
-/

namespace EventHub.LiveHub

def Reaches (live next : LiveHub) : Prop :=
  ∃ actions, next = live.run actions

namespace Reaches

variable {live middle next : LiveHub}

theorem refl (live : LiveHub) : Reaches live live :=
  ⟨[], rfl⟩

theorem trans (first : Reaches live middle) (second : Reaches middle next) :
    Reaches live next := by
  obtain ⟨earlier, rfl⟩ := first
  obtain ⟨later, rfl⟩ := second
  exact ⟨earlier ++ later, (run_append live earlier later).symm⟩

theorem act (live : LiveHub) (action : Action) : Reaches live (live.act action) :=
  ⟨[action], rfl⟩

end Reaches

/-! What goes on by itself. -/

/-- Closes begin, the tasks of the hub take their steps, and time passes; nobody comes in from
outside. -/
def Action.isUnattended : Action → Bool
  | .beginClose _ _ | .passTime _ _ | .work _ => true
  | .hub _ | .publish _ | .routeNext | .closeIngest | .startSession _ _ _ | .receive _ _
  | .limitSink _ _ _ | .setRouting _ | .setMonitor _ => false

/-- From one hub at work to the other by itself. -/
def Drifts (live next : LiveHub) : Prop :=
  ∃ actions, (∀ action ∈ actions, action.isUnattended = true) ∧ next = live.run actions

namespace Drifts

variable {live middle next : LiveHub}

theorem reaches (drifts : Drifts live next) : Reaches live next := by
  obtain ⟨actions, -, rfl⟩ := drifts
  exact ⟨actions, rfl⟩

theorem refl (live : LiveHub) : Drifts live live :=
  ⟨[], nofun, rfl⟩

theorem trans (first : Drifts live middle) (second : Drifts middle next) : Drifts live next := by
  obtain ⟨earlier, unattended, rfl⟩ := first
  obtain ⟨later, unattendedLater, rfl⟩ := second
  exact ⟨earlier ++ later, List.forall_mem_append.2 ⟨unattended, unattendedLater⟩,
    (run_append live earlier later).symm⟩

theorem act (live : LiveHub) (action : Action) (unattended : action.isUnattended = true) :
    Drifts live (live.act action) :=
  ⟨[action], List.forall_mem_singleton.2 unattended, rfl⟩

theorem foldl {α : Type} {step : LiveHub → α → LiveHub}
    (one : ∀ live item, Drifts live (step live item)) (items : List α) (live : LiveHub) :
    Drifts live (items.foldl step live) := by
  induction items generalizing live with
  | nil => exact refl live
  | cons item rest ih => exact (one live item).trans (ih (step live item))

end Drifts

variable {live next : LiveHub}

theorem drifts_beginClose? {id : ConnectionId} {reason : CloseReason}
    (begun : live.beginClose? id reason = some next) : Drifts live next := by
  have acted : live.act (.beginClose id reason) = next := by
    simp only [act, begun, Option.getD_some]
  exact acted ▸ .act live _ rfl

theorem drifts_beginCloses (live : LiveHub) (reason : CloseReason) (ids : List ConnectionId) :
    Drifts live (live.beginCloses reason ids) :=
  .foldl (fun live id => .act live (.beginClose id reason) rfl) ids live

theorem drifts_taskStep {task : Task} (steps : live.taskStep task = some next) :
    Drifts live next := by
  have acted : live.act (.work task) = next := by simp only [act, steps, Option.getD_some]
  exact acted ▸ .act live _ rfl

theorem drifts_nextStep? (steps : live.nextStep? = some next) : Drifts live next := by
  obtain ⟨task, -, stepped⟩ := List.exists_of_findSome?_eq_some steps
  exact drifts_taskStep stepped

theorem drifts_runSteps (fuel : Nat) (live : LiveHub) : Drifts live (runSteps fuel live) := by
  induction fuel generalizing live with
  | zero => exact .refl live
  | succ fuel ih =>
      rw [runSteps]
      split
      · rename_i next steps
        exact (drifts_nextStep? steps).trans (ih next)
      · exact .refl live

theorem drifts_runReady (live : LiveHub) : Drifts live live.runReady :=
  drifts_runSteps live.stepBound live

theorem drifts_clock (live : LiveHub) (clock : Instant) :
    Drifts live { live with clock } :=
  .act live (.passTime clock live.wallClock) rfl

theorem drifts_advanceSteps (holds : LiveHub → Bool) (fuel : Nat) (target : Instant)
    (live : LiveHub) : Drifts live (advanceSteps holds fuel target live) := by
  induction fuel generalizing live with
  | zero => exact drifts_clock live target
  | succ fuel ih =>
      have ready := drifts_runReady live
      rw [advanceSteps]
      split
      · exact ready
      · split
        · rename_i wake _
          split
          · exact ready.trans ((drifts_clock _ wake).trans (ih _))
          · exact ready.trans (drifts_clock _ target)
        · exact ready.trans (drifts_clock _ target)

theorem drifts_advanceUntil (live : LiveHub) (holds : LiveHub → Bool) (span : Nat) :
    Drifts live (live.advanceUntil holds span) :=
  drifts_advanceSteps holds (span + 1) (live.clock + span) live

theorem drifts_finishCloses (live : LiveHub) (ids : List ConnectionId) :
    Drifts live (live.finishCloses ids) :=
  .foldl (fun live id => .act live (.work (.close id)) rfl) ids live

theorem drifts_awaitCloses (live : LiveHub) (ids : List ConnectionId) :
    Drifts live (live.awaitCloses ids) := by
  have finished := drifts_finishCloses live ids
  rw [awaitCloses]
  split
  · exact finished.trans ((drifts_advanceUntil _ _ _).trans (drifts_finishCloses _ ids))
  · exact finished

/-- Begins closes together and sees them through. -/
def closeBatch (live : LiveHub) (reason : CloseReason) (ids : List ConnectionId) : LiveHub :=
  (live.beginCloses reason ids).awaitCloses ids

theorem drifts_closeBatch (live : LiveHub) (reason : CloseReason) (ids : List ConnectionId) :
    Drifts live (live.closeBatch reason ids) :=
  (drifts_beginCloses live reason ids).trans (drifts_awaitCloses _ ids)

/-! What an embedding server asks for. -/

theorem reaches_close (live : LiveHub) (id : ConnectionId) (reason : CloseReason) :
    Reaches live (live.close id reason).1 := by
  rw [close]
  split
  · rename_i begun begins
    exact ((drifts_beginClose? begins).trans (drifts_awaitCloses begun [id])).reaches
  · exact .refl live

theorem reaches_shutdown (live : LiveHub) : Reaches live live.shutdown.1 :=
  (drifts_closeBatch live .serverShutdown live.hub.registered).reaches

theorem reaches_tick (live : LiveHub) (now : Instant) : Reaches live (live.tick now).1 := by
  have surveyed : Reaches live (live.act (.hub (.survey now live.stamp))) := .act live _
  exact surveyed.trans (drifts_closeBatch _ .heartbeatTimeout _).reaches

theorem reaches_publishWait (live : LiveHub) (event : Event) :
    Reaches live (live.publishWait event).1 := by
  have published (live : LiveHub) : Reaches live (live.publish event).1 :=
    .act live (.publish event)
  rw [publishWait]
  split
  · exact (drifts_runReady live).reaches.trans (published live.runReady)
  · exact published live

theorem reaches_routeQueued (limit : Nat) (live : LiveHub) :
    Reaches live (routeQueued limit live).1 := by
  induction limit generalizing live with
  | zero => exact .refl live
  | succ limit ih =>
      rw [routeQueued]
      split
      · rename_i event rest taken
        have routed : live.act .routeNext =
            { live with hub := (live.hub.route event).1, ingest := rest } := by
          simp only [act, routeNext, taken]
        rw [← routed]
        exact (Reaches.act live .routeNext).trans (ih _)
      · exact .refl live

theorem reaches_stopMonitor (live : LiveHub) : Reaches live live.stopMonitor := by
  have stopped (live : LiveHub) : Reaches live { live with monitor := .stopped } :=
    .act live (.setMonitor .stopped)
  rw [stopMonitor]
  split
  · rename_i evicted _ _
    exact (drifts_awaitCloses live evicted).reaches.trans (stopped _)
  · exact stopped live
  · exact stopped live

theorem reaches_closeIngest (live : LiveHub) : Reaches live live.closeIngest :=
  .act live .closeIngest

theorem reaches_stop (live : LiveHub) : Reaches live live.stop.1 :=
  (reaches_closeIngest live).trans ((reaches_stopMonitor _).trans (reaches_shutdown _))

theorem reaches_start (config : HubConfig) : Reaches (idle config) (start config) := by
  have routing : Reaches (idle config) { idle config with routing := true } :=
    .act _ (.setRouting true)
  exact routing.trans (.act _ (.setMonitor (.waiting config.heartbeat.interval)))

theorem reaches_modifySink (live : LiveHub) (id : ConnectionId) {change : Sink → Sink}
    (keeps : ∀ sink, (change sink).written = sink.written) :
    Reaches live (live.modifySink id change) := by
  let limits : Sink := change (((live.sessions.get? id).map Session.sink).getD {})
  have acted : live.act (.limitSink id limits.failAfter limits.stallAfter) =
      live.modifySink id change := by
    simp only [act, modifySink]
    congr 1
    refine Table.update_congr live.sessions ?_
    intro session found
    have limits_eq : limits = change session.sink := by simp [limits, found]
    rw [limits_eq, ← keeps session.sink]
  exact acted ▸ .act live _

theorem reaches_receive (live : LiveHub) (id : ConnectionId) (frame : Inbound) :
    Reaches live (live.receive id frame).1 :=
  .act live (.receive id frame)

theorem reaches_receiveFrame (live : LiveHub) (id : ConnectionId) (frame : ClientFrame) :
    Reaches live (live.receiveFrame id frame).1 := by
  have received := reaches_receive live id (.ofFrame frame)
  have broken (live : LiveHub) : Reaches live (live.modifySink id Sink.broken) :=
    reaches_modifySink live id fun _ => rfl
  cases frame with
  | close reason => exact received.trans (broken _)
  | _ => exact received

theorem reaches_breakTransport (live : LiveHub) (id : ConnectionId) :
    Reaches live (live.breakTransport id) :=
  (reaches_receive live id .failure).trans (reaches_modifySink _ id fun _ => rfl)

theorem reaches_startSession (live : LiveHub) (id : ConnectionId) {sink : Sink}
    (fresh : sink.written = []) : Reaches live (live.startSession id sink).1 := by
  obtain ⟨failAfter, stallAfter, written⟩ := sink
  cases fresh
  exact .act live (.startSession id failAfter stallAfter)

/-- A hub that is served keeps what every run of actions keeps. -/
theorem Reaches.sound (reaches : Reaches live next) (sound : live.hub.Sound) : next.hub.Sound := by
  obtain ⟨actions, rfl⟩ := reaches
  exact sound_run sound actions

end EventHub.LiveHub
