import EventHub.Proofs.Hub.Parting
import EventHub.Proofs.Hub.Quiet
import EventHub.Proofs.Hub.Soundness

/-!
The hub's operations and the log of close calls they make. Most operations leave everybody's parting
alone. A request or a close takes one connection on, and only the end of a close is reported and
counted.
-/

namespace EventHub

def Report.departure? : Report → Option (ConnectionId × CloseReason)
  | .closed id reason => some (id, reason)
  | .opened _ | .routed _ | .sampled _ | .missed _ _ | .crossed _ _ => none

namespace Hub

/-- The ends that were reported, latest first. -/
def departures (hub : Hub) : List (ConnectionId × CloseReason) :=
  hub.reports.filterMap Report.departure?

def reasonsFor (hub : Hub) (id : ConnectionId) : List CloseReason :=
  (hub.departures.filter fun departure => departure.1 = id).map (·.2)

/-- The statistic of evictions counts the reported ends that came of a heartbeat timeout. -/
def Tallied (hub : Hub) : Prop :=
  hub.totals.evictions = hub.departures.countP fun departure => departure.2 = .heartbeatTimeout

theorem closeReason_standing {hub : Hub} {id : ConnectionId} {connection : Connection}
    (found : hub.get? id = some connection) :
    (hub.standing id).closeReason = connection.closeReason := by
  have present : (hub.standing id).connection = some connection := found
  rw [Standing.closeReason, present]
  rfl

structure SameBooks (before after : Hub) : Prop where
  departures : after.departures = before.departures
  evictions : after.totals.evictions = before.totals.evictions

section Books

variable {hub next : Hub}

theorem SameBooks.refl (hub : Hub) : SameBooks hub hub :=
  ⟨rfl, rfl⟩

theorem SameBooks.reasonsFor (books : SameBooks hub next) (id : ConnectionId) :
    next.reasonsFor id = hub.reasonsFor id := by
  rw [Hub.reasonsFor, books.departures, Hub.reasonsFor]

theorem SameBooks.tallied (books : SameBooks hub next) (tallied : hub.Tallied) :
    next.Tallied := by
  rw [Tallied, books.departures, books.evictions]
  exact tallied

theorem Quiet.books (quiet : Quiet hub next) : SameBooks hub next where
  departures := by
    obtain ⟨entries, isReports, quietly⟩ := quiet.reports
    rw [departures, isReports, List.filterMap_append, List.filterMap_eq_nil_iff.2, List.nil_append,
      departures]
    intro entry member
    cases entry with
    | closed id reason => cases quietly _ member
    | _ => rfl
  evictions := congrArg HubTotals.evictions quiet.totals

theorem books_route (wellFormed : hub.WellFormed) (event : Event) :
    SameBooks hub (hub.route event).1 := by
  have delivered := (quiet_deliveries wellFormed event).books
  exact ⟨delivered.departures, delivered.evictions⟩

theorem books_beginDraining (hub : Hub) (id : ConnectionId) (reason : CloseReason) :
    SameBooks hub (hub.beginDraining id reason).1 := by
  rw [beginDraining]
  split <;> exact ⟨rfl, rfl⟩

end Books

/-- Nobody is further on the way out than before. -/
structure Calm (before after : Hub) : Prop where
  wellFormed : after.WellFormed
  parts : ∀ id parting, (before.standing id).Parts parting → (after.standing id).Parts parting
  books : SameBooks before after

namespace Calm

variable {hub next : Hub} {id : ConnectionId}
  {change : ConnectionId → Standing → Standing} {turn : Standing → Standing}

theorem of_effect (effect : Effect hub next change) (books : SameBooks hub next)
    (parts : ∀ id parting, (hub.standing id).Parts parting →
      (change id (hub.standing id)).Parts parting) : Calm hub next where
  wellFormed := effect.wellFormed
  parts := by
    intro id parting before
    rw [effect.standing]
    exact parts id parting before
  books := books

theorem of_onlyAt (effect : Effect hub next (Standing.onlyAt id turn)) (books : SameBooks hub next)
    (parts : ∀ parting, (hub.standing id).Parts parting →
      (turn (hub.standing id)).Parts parting) : Calm hub next := by
  refine of_effect effect books fun other parting before => ?_
  rw [Standing.onlyAt]
  split
  · rename_i same
    subst same
    exact parts parting before
  · exact before

end Calm

section Operations

variable {hub : Hub} (wellFormed : hub.WellFormed)
include wellFormed

theorem calm_modify (id : ConnectionId) (change : Connection → Connection)
    (same : ∀ connection : Connection, connection.SameEnd (change connection)) :
    Calm hub (hub.modify id change) :=
  .of_onlyAt (effect_modify wellFormed id change fun connection => (same connection).id)
    ⟨rfl, rfl⟩ fun _ parts => parts.amend fun connection _ => same connection

theorem calm_reportCrossing (id : ConnectionId) (crossing : Option Crossing) :
    Calm hub (hub.reportCrossing id crossing) :=
  .of_effect (effect_reportCrossing wellFormed id crossing)
    ((Quiet.refl wellFormed).reportCrossing id crossing).books fun _ _ parts => parts

theorem calm_admission (id : ConnectionId) (identity : Identity) (version : UInt32) :
    Calm hub (hub.admission id identity version) := by
  refine .of_effect (effect_admission wellFormed id identity version) ?_ ?_
  · rw [admission]
    split
    · exact .refl hub
    · rw [register]
      split
      · exact .refl hub
      · exact ⟨rfl, rfl⟩
  · intro other parting parts
    split
    · rename_i concerned
      exact parts.enroll (get?_eq_none_of_concerns concerned) _ _ _ _
    · exact parts

theorem calm_subscribe (id : ConnectionId) (events : List EventType) (clusters : List String) :
    Calm hub (hub.subscribe id events clusters).1 := by
  refine .of_onlyAt (effect_subscribe wellFormed id events clusters) ?_ ?_
  · rcases hub.subscribe_cases id events clusters with refused | ⟨_, _, _, -, accepted⟩
    · rw [refused]
      exact .refl hub
    · rw [accepted]
      exact ⟨rfl, rfl⟩
  · refine fun parting parts => parts.congr ?_ ?_
    · exact Standing.connection_subscribe _ _ events clusters
    · rw [Standing.subscribe]
      split
      · split <;> rfl
      · rfl

theorem calm_unsubscribe (id : ConnectionId) (events : List EventType) :
    Calm hub (hub.unsubscribe id events).1 :=
  .of_onlyAt (effect_unsubscribe wellFormed id events) ⟨rfl, rfl⟩ fun _ parts => parts.congr rfl rfl

theorem calm_route (event : Event) : Calm hub (hub.route event).1 := by
  refine .of_effect (effect_route wellFormed event) (books_route wellFormed event) ?_
  intro id parting parts
  rw [Standing.offer]
  split
  · exact parts.amend fun connection _ => connection.sameEnd_take event.toPayload
  · exact parts

theorem calm_survey (now : Instant) (stamp : UInt64) : Calm hub (hub.survey now stamp).1 := by
  refine .of_effect (effect_survey wellFormed now stamp)
    (quiet_survey wellFormed now stamp).books ?_
  intro id parting parts
  rw [Standing.visit]
  split
  · exact parts.amend fun connection _ => connection.sameEnd_attend hub.config.heartbeat now stamp
  · exact parts

end Operations

/-! The calls an operation makes. A request is one step, and so is the part of a close before its
wait. -/

def drainCalls (hub : Hub) (id : ConnectionId) (reason : CloseReason) : List CloseCall :=
  (hub.get? id).toList.map fun connection => .drain id reason (connection.beginDraining reason).2

/-- A close that finds the connection also asks it to close. -/
def closeCalls (hub : Hub) (id : ConnectionId) (reason : CloseReason) : List CloseCall :=
  (if hub.isRegistered id then hub.drainCalls id reason else []) ++
    [.close id reason (hub.close id reason).2]

/-- The calls of closes made one after the other, each where the one before has led. -/
def callsAlong (close : Hub → ConnectionId → Hub) (reason : CloseReason) :
    Hub → List ConnectionId → List CloseCall
  | _, [] => []
  | hub, id :: rest => hub.closeCalls id reason ++ callsAlong close reason (close hub id) rest

def closeAllCalls (hub : Hub) (reason : CloseReason) (ids : List ConnectionId) : List CloseCall :=
  callsAlong (fun hub id => (hub.close id reason).1) reason hub ids

def calls (hub : Hub) : Operation → List CloseCall
  | .beginDraining id reason => hub.drainCalls id reason
  | .beginClose id reason | .close id reason => hub.closeCalls id reason
  | .tick now stamp =>
      (hub.survey now stamp).1.closeAllCalls .heartbeatTimeout (hub.survey now stamp).2.evicted
  | .shutdown => hub.closeAllCalls .serverShutdown hub.registered
  | .register _ _ _ | .subscribe _ _ _ | .unsubscribe _ _ | .route _ | .dequeue _ | .clear _
  | .tend _ _ | .markClosed _ | .finishClose _ _ | .survey _ _ | .report _ => []

/-- What is asked of a hub as a whole, and not a part of something that the hub does. -/
def Operation.isWhole : Operation → Bool
  | .markClosed _ | .beginClose _ _ | .finishClose _ _ | .report _ => false
  | .register _ _ _ | .subscribe _ _ _ | .unsubscribe _ _ | .route _ | .dequeue _ | .clear _
  | .tend _ _ | .beginDraining _ _ | .close _ _ | .survey _ _ | .tick _ _ | .shutdown => true

/-- The hub stands where the log says with the connection `id`; so many of its closes are waiting
for their end. -/
structure Heard (id : ConnectionId) (log : List CloseCall) (waiting : Nat) (hub : Hub) : Prop where
  wellFormed : hub.WellFormed
  parts : ∃ parting, Parting.staying.Answers (CloseCall.about id log) parting ∧
    (hub.standing id).Parts parting
  settled : (hub.reasonsFor id).length + waiting =
    (CloseCall.about id log).countP CloseCall.removes
  agreed : ∀ reason ∈ hub.reasonsFor id, (hub.standing id).closeReason = some reason
  tallied : hub.Tallied

namespace Heard

variable {hub next : Hub} {id : ConnectionId} {log calls : List CloseCall} {waiting left : Nat}

theorem of_idle (config : HubConfig) (id : ConnectionId) : (ofConfig config).Heard id [] 0 where
  wellFormed := wellFormed_ofConfig config
  parts := ⟨.staying, .done _, .unknown rfl rfl⟩
  settled := rfl
  agreed := nofun
  tallied := rfl

theorem closeReason_eq (before : hub.Heard id log waiting)
    (after : next.Heard id (log ++ calls) left) (reason : CloseReason)
    (given : (hub.standing id).closeReason = some reason) :
    (next.standing id).closeReason = some reason := by
  obtain ⟨parting, answers, parts⟩ := before.parts
  obtain ⟨last, whole, partsLast⟩ := after.parts
  rw [CloseCall.about_append] at whole
  rw [partsLast.closeReason]
  exact (answers.rest whole).reason?_eq (parts.closeReason.symm.trans given)

theorem recorded (heard : hub.Heard id log waiting) (regular : (hub.standing id).Regular)
    {connection : Connection} (found : hub.get? id = some connection) : connection.Recorded := by
  obtain ⟨parting, -, parts⟩ := heard.parts
  have asked := (regular connection found).asked
  exact ⟨asked, (parts.isSome_closeReason found).trans asked.symm⟩

theorem waiting_le (heard : hub.Heard id log waiting) : waiting ≤ 1 := by
  obtain ⟨parting, answers, -⟩ := heard.parts
  have removals := answers.removals_eq
  have settled := heard.settled
  have bounded := parting.removals_le
  rw [Parting.removals] at removals
  omega

theorem left_of_waiting (heard : hub.Heard id log (waiting + 1)) :
    ∃ reason, Parting.staying.Answers (CloseCall.about id log) (.left reason) ∧
      (hub.standing id).Parts (.left reason) := by
  obtain ⟨parting, answers, parts⟩ := heard.parts
  have removals := answers.removals_eq
  have settled := heard.settled
  cases parting with
  | left reason => exact ⟨reason, answers, parts⟩
  | staying | asked reason =>
      simp only [Parting.removals] at removals
      omega

theorem step (heard : hub.Heard id log waiting) (wellFormed : next.WellFormed)
    (answers : ∀ parting, (hub.standing id).Parts parting →
      ∃ later, parting.Answers (CloseCall.about id calls) later ∧ (next.standing id).Parts later)
    (books : SameBooks hub next)
    (settled : left = waiting + (CloseCall.about id calls).countP CloseCall.removes) :
    next.Heard id (log ++ calls) left := by
  obtain ⟨parting, before, parts⟩ := heard.parts
  obtain ⟨later, after, partsLater⟩ := answers parting parts
  refine ⟨wellFormed, ⟨later, ?_, partsLater⟩, ?_, ?_, books.tallied heard.tallied⟩
  · rw [CloseCall.about_append]
    exact before.trans after
  · rw [books.reasonsFor, CloseCall.about_append, List.countP_append, ← heard.settled, settled,
      Nat.add_assoc]
  · rw [books.reasonsFor]
    intro reason reported
    have given := heard.agreed reason reported
    rw [parts.closeReason] at given
    rw [partsLater.closeReason]
    exact after.reason?_eq given

theorem calm (heard : hub.Heard id log waiting) (calm : Calm hub next) :
    next.Heard id log waiting := by
  have stepped : next.Heard id (log ++ []) waiting :=
    heard.step calm.wellFormed
      (fun parting parts => ⟨parting, .done _, calm.parts id parting parts⟩) calm.books rfl
  rwa [List.append_nil] at stepped

/-- The calls are about another connection, and so is what they do. -/
theorem elsewhere (heard : hub.Heard id log waiting) {key : ConnectionId}
    {turn : Standing → Standing} (effect : Effect hub next (Standing.onlyAt key turn))
    (different : key ≠ id) (own : ∀ call ∈ calls, call.id = key) (books : SameBooks hub next) :
    next.Heard id (log ++ calls) waiting := by
  have unheard := CloseCall.about_of_other own different
  refine heard.step effect.wellFormed (fun parting parts => ⟨parting, ?_, ?_⟩) books ?_
  · rw [unheard]
    exact .done _
  · rw [effect.standing, Standing.onlyAt, if_neg different.symm]
    exact parts
  · rw [unheard]
    rfl

end Heard

theorem id_of_mem_drainCalls {hub : Hub} {id : ConnectionId} {reason : CloseReason}
    {call : CloseCall} (member : call ∈ hub.drainCalls id reason) : call.id = id := by
  obtain ⟨connection, -, rfl⟩ := List.mem_map.1 member
  rfl

theorem id_of_mem_closeCalls {hub : Hub} {id : ConnectionId} {reason : CloseReason}
    {call : CloseCall} (member : call ∈ hub.closeCalls id reason) : call.id = id := by
  rcases List.mem_append.1 member with member | member
  · split at member
    · exact id_of_mem_drainCalls member
    · cases member
  · rw [List.mem_singleton.1 member]
    rfl

theorem drainCalls_eq {hub : Hub} {id : ConnectionId} {connection : Connection}
    (found : hub.get? id = some connection) (reason : CloseReason) :
    hub.drainCalls id reason = [.drain id reason (connection.beginDraining reason).2] := by
  rw [drainCalls, found]
  rfl

theorem isSome_beginClose? (hub : Hub) (id : ConnectionId) (reason : CloseReason) :
    (hub.beginClose? id reason).isSome = hub.isRegistered id := by
  rw [beginClose?, Option.isSome_map, detach?]
  split
  · rename_i registered
    exact registered.symm
  · rename_i unregistered
    exact (Bool.eq_false_iff.2 unregistered).symm

theorem close_snd (hub : Hub) (id : ConnectionId) (reason : CloseReason) :
    (hub.close id reason).2 = hub.isRegistered id := by
  rw [← hub.isSome_beginClose? id reason, close]
  cases hub.beginClose? id reason with
  | none => rfl
  | some next => rfl

theorem closeCalls_of_registered {hub : Hub} {id : ConnectionId} {connection : Connection}
    (registered : hub.isRegistered id = true) (found : hub.get? id = some connection)
    (reason : CloseReason) :
    hub.closeCalls id reason =
      [.drain id reason (connection.beginDraining reason).2, .close id reason true] := by
  rw [closeCalls, if_pos registered, drainCalls_eq found, close_snd, registered]
  rfl

theorem closeCalls_of_unregistered {hub : Hub} {id : ConnectionId}
    (unregistered : hub.isRegistered id = false) (reason : CloseReason) :
    hub.closeCalls id reason = [.close id reason false] := by
  rw [closeCalls, if_neg (by simp [unregistered]), close_snd, unregistered]
  rfl

theorem books_beginClose? {hub next : Hub} {id : ConnectionId} {reason : CloseReason}
    (begun : hub.beginClose? id reason = some next) : SameBooks hub next := by
  obtain ⟨detached, detaches, rfl⟩ := Option.map_eq_some_iff.1 begun
  have drained := detached.books_beginDraining id reason
  obtain ⟨-, rfl⟩ := detach?_eq_some_iff.1 detaches
  exact ⟨drained.departures, drained.evictions⟩

theorem departures_finishClose (hub : Hub) (id : ConnectionId) (asked : CloseReason) :
    (hub.finishClose id asked).departures =
      (id, (hub.standing id).closeReason.getD asked) :: hub.departures := by
  simp only [finishClose, countEviction]
  split <;> rfl

theorem reasonsFor_finishClose {hub : Hub} {id : ConnectionId} {reason : CloseReason}
    (given : (hub.standing id).closeReason = some reason) (asked : CloseReason) :
    (hub.finishClose id asked).reasonsFor id = reason :: hub.reasonsFor id := by
  rw [reasonsFor, departures_finishClose, given, List.filter_cons_of_pos (by simp)]
  rfl

theorem evictions_finishClose (hub : Hub) (id : ConnectionId) (asked : CloseReason) :
    (hub.finishClose id asked).totals.evictions = hub.totals.evictions +
      if (hub.standing id).closeReason.getD asked = .heartbeatTimeout then 1 else 0 := by
  have recorded : (hub.standing id).closeReason = (hub.get? id).bind Connection.closeReason := rfl
  simp only [finishClose, countEviction, recorded]
  split <;> rfl

theorem Tallied.finishClose {hub : Hub} (tallied : hub.Tallied) (id : ConnectionId)
    (asked : CloseReason) : (hub.finishClose id asked).Tallied := by
  rw [Tallied, evictions_finishClose, departures_finishClose, List.countP_cons, tallied]
  simp only [decide_eq_true_eq]

namespace Heard

variable {hub next : Hub} {id key : ConnectionId} {log : List CloseCall} {waiting : Nat}
  {reason : CloseReason}

theorem beginDraining (heard : hub.Heard id log waiting) (key : ConnectionId)
    (reason : CloseReason) :
    (hub.beginDraining key reason).1.Heard id (log ++ hub.drainCalls key reason) waiting := by
  have effect := effect_beginDraining heard.wellFormed key reason
  have books := hub.books_beginDraining key reason
  have own : ∀ call ∈ hub.drainCalls key reason, call.id = key := fun _ => id_of_mem_drainCalls
  by_cases same : key = id
  · subst same
    cases found : hub.get? key with
    | none =>
        have idle : hub.beginDraining key reason = (hub, false) := by rw [Hub.beginDraining, found]
        rw [idle, drainCalls, found]
        exact heard.step heard.wellFormed (fun parting parts => ⟨parting, .done _, parts⟩)
          (.refl hub) rfl
    | some connection =>
        rw [drainCalls_eq found] at own ⊢
        refine heard.step effect.wellFormed (fun parting parts => ?_) books ?_
        · rw [CloseCall.about_of_own own, effect.standing, Standing.onlyAt_self]
          exact parts.beginDraining found key reason
        · rw [CloseCall.about_of_own own]
          rfl
  · exact heard.elsewhere effect same own books

theorem beginClose (heard : hub.Heard id log waiting)
    (begun : hub.beginClose? key reason = some next) :
    next.Heard id (log ++ hub.closeCalls key reason) (waiting + if key = id then 1 else 0) := by
  have registered : hub.isRegistered key = true := by
    rw [← hub.isSome_beginClose? key reason, begun]
    rfl
  have effect := effect_beginClose heard.wellFormed key reason
  rw [begun, Option.getD_some] at effect
  have books := books_beginClose? begun
  have own : ∀ call ∈ hub.closeCalls key reason, call.id = key := fun _ => id_of_mem_closeCalls
  by_cases same : key = id
  · subst same
    obtain ⟨connection, found⟩ :=
      Option.isSome_iff_exists.1 (heard.wellFormed.known key registered)
    have calls := closeCalls_of_registered registered found reason
    refine heard.step effect.wellFormed (fun parting parts => ?_) books ?_
    · rw [CloseCall.about_of_own own, calls, effect.standing, Standing.onlyAt_self]
      exact parts.leave found registered key reason
    · rw [CloseCall.about_of_own own, calls, if_pos rfl]
      rfl
  · rw [if_neg same]
    exact heard.elsewhere effect same own books

theorem refuse (heard : hub.Heard id log waiting) (refused : hub.beginClose? key reason = none) :
    hub.Heard id (log ++ hub.closeCalls key reason) waiting := by
  have unregistered : hub.isRegistered key = false := by
    rw [← hub.isSome_beginClose? key reason, refused]
    rfl
  rw [closeCalls_of_unregistered unregistered]
  by_cases same : key = id
  · subst same
    have own : CloseCall.about key [.close key reason false] = [.close key reason false] :=
      CloseCall.about_of_own fun call member => by rw [List.mem_singleton.1 member]; rfl
    refine heard.step heard.wellFormed (fun parting parts => ⟨parting, ?_, parts⟩) (.refl hub) ?_
    · rw [own]
      exact parts.refuse unregistered key reason
    · rw [own]
      rfl
  · have idle : Effect hub hub (Standing.onlyAt key fun standing => standing) :=
      .refl_onlyAt heard.wellFormed rfl
    refine heard.elsewhere idle same (fun call member => ?_) (.refl hub)
    rw [List.mem_singleton.1 member]
    rfl

/-- Who waits for an end has left, so the reason on record goes before the one asked for. -/
theorem finishClose (heard : hub.Heard id log (waiting + if key = id then 1 else 0))
    (asked : CloseReason) : (hub.finishClose key asked).Heard id log waiting := by
  have effect := effect_finishClose heard.wellFormed key asked
  have tallied := heard.tallied.finishClose key asked
  have departures := hub.departures_finishClose key asked
  by_cases same : key = id
  · subst same
    rw [if_pos rfl] at heard
    obtain ⟨reason, answers, parts⟩ := heard.left_of_waiting
    have given : (hub.standing key).closeReason = some reason := parts.closeReason
    have left : ((hub.finishClose key asked).standing key).Parts (.left reason) := by
      rw [effect.standing, Standing.onlyAt_self]
      exact parts.markClosed
    have reasons := reasonsFor_finishClose given asked
    refine ⟨effect.wellFormed, ⟨_, answers, left⟩, ?_, ?_, tallied⟩
    · rw [reasons, List.length_cons, ← heard.settled, Nat.add_right_comm, Nat.add_assoc]
    · rw [reasons, left.closeReason]
      refine List.forall_mem_cons.2 ⟨rfl, fun other reported => ?_⟩
      rw [← heard.agreed other reported, given]
      rfl
  · rw [if_neg same] at heard
    have apart : (hub.finishClose key asked).standing id = hub.standing id := by
      rw [effect.standing, Standing.onlyAt, if_neg (Ne.symm same)]
    have reasons : (hub.finishClose key asked).reasonsFor id = hub.reasonsFor id := by
      rw [reasonsFor, departures, List.filter_cons_of_neg (by simpa using same)]
      rfl
    refine ⟨effect.wellFormed, ?_, ?_, ?_, tallied⟩
    · rw [apart]
      exact heard.parts
    · rw [reasons]
      exact heard.settled
    · rw [reasons, apart]
      exact heard.agreed

theorem close (heard : hub.Heard id log waiting) (key : ConnectionId) (reason : CloseReason) :
    (hub.close key reason).1.Heard id (log ++ hub.closeCalls key reason) waiting := by
  rw [Hub.close]
  cases begun : hub.beginClose? key reason with
  | none => exact heard.refuse begun
  | some next => exact (heard.beginClose begun).finishClose reason

theorem closeAll (heard : hub.Heard id log waiting) (reason : CloseReason)
    (keys : List ConnectionId) :
    (hub.closeAll reason keys).Heard id (log ++ hub.closeAllCalls reason keys) waiting := by
  induction keys generalizing hub log with
  | nil =>
      rw [closeAllCalls, callsAlong, List.append_nil]
      exact heard
  | cons key rest ih =>
      rw [closeAllCalls, callsAlong, ← List.append_assoc]
      exact ih (heard.close key reason)

theorem apply (heard : hub.Heard id log waiting) {operation : Operation}
    (whole : operation.isWhole = true) :
    (hub.apply operation).Heard id (log ++ hub.calls operation) waiting := by
  have calm {next : Hub} (calm : Calm hub next) : next.Heard id (log ++ []) waiting := by
    rw [List.append_nil]
    exact heard.calm calm
  have wellFormed := heard.wellFormed
  cases operation with
  | register key identity version => exact calm (calm_admission wellFormed key identity version)
  | subscribe key events clusters => exact calm (calm_subscribe wellFormed key events clusters)
  | unsubscribe key events => exact calm (calm_unsubscribe wellFormed key events)
  | route event => exact calm (calm_route wellFormed event)
  | dequeue key => exact calm (calm_modify wellFormed key _ fun _ => ⟨rfl, rfl, rfl⟩)
  | clear key => exact calm (calm_modify wellFormed key _ fun _ => ⟨rfl, rfl, rfl⟩)
  | tend key upkeep => exact calm (calm_modify wellFormed key _ upkeep.sameEnd_apply)
  | beginDraining key reason => exact heard.beginDraining key reason
  | close key reason => exact heard.close key reason
  | survey now stamp => exact calm (calm_survey wellFormed now stamp)
  | tick now stamp =>
      exact (heard.calm (calm_survey wellFormed now stamp)).closeAll .heartbeatTimeout _
  | shutdown => exact heard.closeAll .serverShutdown hub.registered
  | markClosed key => cases whole
  | beginClose key reason => cases whole
  | finishClose key asked => cases whole
  | report entry => cases whole

end Heard

end Hub

end EventHub
