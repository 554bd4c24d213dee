import EventHub.Proofs.Hub.Hysteresis
import EventHub.Proofs.Hub.Pass
import EventHub.Proofs.Hub.Traffic
import Mathlib.Algebra.BigOperators.Group.Finset.Piecewise

/-!
What the metrics sink hears of the marks of the buffers. A crossing is made in a buffer and reported
by whoever filled or emptied it, so the hub's log and the counts of the buffers are two books about
the same thing. A crossing that nobody reports is in one of them only.
-/

namespace EventHub

def Report.crossing? : Report → Option (ConnectionId × Crossing)
  | .crossed id crossing => some (id, crossing)
  | .opened _ | .closed _ _ | .routed _ | .sampled _ | .missed _ _ => none

namespace Buffer

/-- How often the buffer has crossed a mark, by its own count. -/
def made (buffer : Buffer) : Crossing → Nat
  | .paused => buffer.pauseCount
  | .resumed => buffer.resumeCount

theorem Crosses.made_eq {crossing : Option Crossing} {before after : Buffer}
    (crosses : Crosses crossing before after) (kind : Crossing) :
    after.made kind = before.made kind + if crossing = some kind then 1 else 0 := by
  cases kind with
  | paused => exact crosses.pauseCount
  | resumed => exact crosses.resumeCount

/-- Whatever ratios are asked for, a single place is filled at once and emptied at once. -/
theorem ofConfig_single {config : BufferConfig} (single : config.capacity ≤ 1) :
    ofConfig config = { capacity := 1, highMark := 1, lowMark := 0 } := by
  have capacity : config.effective.capacity = 1 := Nat.max_eq_right single
  have high := config.effective.highMark_le
  have reached := config.effective.one_le_highMark
  have low := config.effective.lowMark_lt_highMark
  have room : atLeastOne config.effective.capacity = 1 := by rw [capacity]; rfl
  rw [ofConfig, capacity]
  congr 1 <;> omega

theorem crosses_refl (buffer : Buffer) : Crosses none buffer buffer :=
  ⟨by simp, by simp, rfl, rfl, rfl, rfl⟩

end Buffer

namespace Hub

/-- The crossings that were reported, latest first. -/
def crossed (hub : Hub) : List (ConnectionId × Crossing) :=
  hub.reports.filterMap Report.crossing?

def made (hub : Hub) (id : ConnectionId) (kind : Crossing) : Nat :=
  (hub.get? id).elim 0 fun connection => connection.buffer.made kind

/-- Between the hubs these crossings are reported, latest first, and every buffer counts those of
its own and so many resumes that go unreported. -/
structure Marks (hub : Hub) (entries : List (ConnectionId × Crossing))
    (untold : ConnectionId → Nat) (next : Hub) : Prop where
  paused : ∀ id, next.made id .paused = hub.made id .paused + entries.count (id, .paused)
  resumed : ∀ id,
    next.made id .resumed = hub.made id .resumed + entries.count (id, .resumed) + untold id
  crossed : next.crossed = entries ++ hub.crossed

/-- The buffer of one connection makes this crossing, if any, and the others make none. -/
structure Turns (hub next : Hub) (id : ConnectionId) (crossing : Option Crossing) : Prop where
  own : ∃ before after, hub.get? id = some before ∧ next.get? id = some after ∧
    Buffer.Crosses crossing before.buffer after.buffer
  others : ∀ other, other ≠ id → next.get? other = hub.get? other

variable {hub middle next : Hub} {id : ConnectionId} {crossing : Option Crossing}

theorem Turns.made_eq (turns : Turns hub next id crossing) (other : ConnectionId)
    (kind : Crossing) :
    next.made other kind =
      hub.made other kind + if other = id ∧ crossing = some kind then 1 else 0 := by
  by_cases own : other = id
  · subst own
    obtain ⟨before, after, found, becomes, crosses⟩ := turns.own
    simp only [made, found, becomes, Option.elim_some, true_and]
    exact crosses.made_eq kind
  · simp [made, turns.others other own, own]

theorem turns_modify {connection : Connection} (found : hub.get? id = some connection)
    {change : Connection → Connection}
    (crosses : Buffer.Crosses crossing connection.buffer (change connection).buffer) :
    Turns hub (hub.modify id change) id crossing where
  own := by
    refine ⟨connection, change connection, found, ?_, crosses⟩
    rw [get?, modify, Table.get?_update, if_pos rfl]
    exact congrArg (Option.map change) found
  others := by
    intro other different
    rw [get?, modify, Table.get?_update, if_neg different, get?]

theorem Turns.reportCrossing (turns : Turns hub next id crossing) (told : Option Crossing) :
    Turns hub (next.reportCrossing id told) id crossing := by
  cases told with
  | none => exact turns
  | some made => exact ⟨turns.own, turns.others⟩

theorem crossed_reportCrossing (hub : Hub) (id : ConnectionId) (crossing : Option Crossing) :
    (hub.reportCrossing id crossing).crossed =
      (crossing.toList.map fun made => (id, made)) ++ hub.crossed := by
  cases crossing <;> rfl

theorem count_map_toList (id other : ConnectionId) (crossing : Option Crossing)
    (kind : Crossing) :
    (crossing.toList.map fun made => (id, made)).count (other, kind) =
      if other = id ∧ crossing = some kind then 1 else 0 := by
  cases crossing with
  | none => simp
  | some made =>
      simp only [Option.toList_some, List.map_cons, List.map_nil, List.count_cons, List.count_nil,
        beq_iff_eq, Prod.mk.injEq, Option.some.injEq, Nat.zero_add, @eq_comm _ id other]

namespace Marks

variable {entries more : List (ConnectionId × Crossing)} {untold extra : ConnectionId → Nat}

theorem trans (first : Marks hub entries untold middle) (second : Marks middle more extra next) :
    Marks hub (more ++ entries) (fun id => untold id + extra id) next where
  paused := by
    intro id
    rw [second.paused, first.paused, List.count_append]
    omega
  resumed := by
    intro id
    rw [second.resumed, first.resumed, List.count_append]
    omega
  crossed := by
    rw [second.crossed, first.crossed, List.append_assoc]

theorem still (made : ∀ id kind, next.made id kind = hub.made id kind)
    (crossed : next.crossed = hub.crossed) : Marks hub [] (fun _ => 0) next :=
  ⟨fun id => made id .paused, fun id => made id .resumed, crossed⟩

theorem refl (hub : Hub) : Marks hub [] (fun _ => 0) hub :=
  still (fun _ _ => rfl) rfl

theorem tells (turns : Turns hub next id crossing)
    (crossed : next.crossed = (crossing.toList.map fun made => (id, made)) ++ hub.crossed) :
    Marks hub (crossing.toList.map fun made => (id, made)) (fun _ => 0) next where
  paused := fun other => by rw [turns.made_eq, count_map_toList]
  resumed := fun other => by rw [turns.made_eq, count_map_toList, Nat.add_zero]
  crossed := crossed

theorem hushes (turns : Turns hub next id crossing) (unpaused : crossing ≠ some .paused)
    (crossed : next.crossed = hub.crossed) :
    Marks hub [] (fun other => if other = id ∧ crossing = some .resumed then 1 else 0) next where
  paused := fun other => by simp [turns.made_eq, unpaused]
  resumed := fun other => by rw [turns.made_eq]; rfl
  crossed := crossed

end Marks

/-! Changes that no buffer notices. -/

theorem made_of_buffer_eq {before after : Connection} (found : hub.get? id = some before)
    (becomes : next.get? id = some after) (buffer : after.buffer = before.buffer)
    (kind : Crossing) : next.made id kind = hub.made id kind := by
  rw [made, becomes, made, found, Option.elim_some, Option.elim_some, buffer]

theorem made_of_keeps (keeps : (hub.standing id).Keeps (next.standing id)) (kind : Crossing) :
    next.made id kind = hub.made id kind := by
  cases found : hub.get? id with
  | some before =>
      obtain ⟨after, becomes, kept⟩ := keeps.kept before found
      exact made_of_buffer_eq found becomes kept.buffer kind
  | none =>
      cases becomes : next.get? id with
      | none => rw [made, becomes, made, found]
      | some after =>
          obtain ⟨config, fresh⟩ := keeps.fresh found after becomes
          rw [made, becomes, made, found, Option.elim_some, fresh]
          cases kind <;> rfl

theorem made_modify (hub : Hub) (id : ConnectionId) {change : Connection → Connection}
    (buffer : ∀ connection, (change connection).buffer = connection.buffer)
    (other : ConnectionId) (kind : Crossing) :
    (hub.modify id change).made other kind = hub.made other kind := by
  rw [made, made, modify, get?, Table.get?_update, get?]
  split
  · cases hub.connections.get? other with
    | none => rfl
    | some connection => exact congrArg (Buffer.made · kind) (buffer connection)
  · rfl

/-! No operation reports a crossing, but for the routing of an event. -/

/-- Neither fills nor empties a buffer, and reports no crossing itself. -/
def Operation.isHandsOff : Operation → Bool
  | .route _ | .dequeue _ | .clear _ => false
  | .report entry => entry.crossing?.isNone
  | .register _ _ _ | .subscribe _ _ _ | .unsubscribe _ _ | .tend _ _ | .beginDraining _ _
  | .markClosed _ | .beginClose _ _ | .finishClose _ _ | .close _ _ | .survey _ _ | .tick _ _
  | .shutdown => true

theorem crossed_report (hub : Hub) {entry : Report} (silent : entry.crossing?.isNone = true) :
    (hub.report entry).crossed = hub.crossed :=
  List.filterMap_cons_none (Option.isNone_iff_eq_none.1 silent)

theorem crossed_beginDraining (hub : Hub) (id : ConnectionId) (reason : CloseReason) :
    (hub.beginDraining id reason).1.crossed = hub.crossed := by
  rw [beginDraining]
  split <;> rfl

theorem crossed_beginClose? {reason : CloseReason}
    (begun : hub.beginClose? id reason = some next) : next.crossed = hub.crossed := by
  rw [crossed, (beginClose?_tells_nothing begun).2, crossed]

theorem crossed_finishClose (hub : Hub) (id : ConnectionId) (asked : CloseReason) :
    (hub.finishClose id asked).crossed = hub.crossed := by
  rw [finishClose, countEviction]
  split <;> rfl

theorem crossed_close (hub : Hub) (id : ConnectionId) (reason : CloseReason) :
    (hub.close id reason).1.crossed = hub.crossed := by
  rw [close]
  split
  · rename_i begun
    rw [crossed_finishClose, crossed_beginClose? begun]
  · rfl

theorem crossed_closeAll (hub : Hub) (reason : CloseReason) (ids : List ConnectionId) :
    (hub.closeAll reason ids).crossed = hub.crossed :=
  List.foldlRecOn (motive := fun (state : Hub) => state.crossed = hub.crossed) _ _ rfl
    fun state same id _ => (crossed_close state id reason).trans same

theorem crossing?_turnReports (hub : Hub) (now : Instant) (stamp : UInt64) (id : ConnectionId) :
    (hub.turnReports now stamp id).filterMap Report.crossing? = [] := by
  rw [turnReports, Standing.turnReports]
  split
  · split
    · rw [Connection.turnReports]
      split <;> rfl
    · rfl
  · rfl

theorem crossed_survey (wellFormed : hub.WellFormed) (now : Instant) (stamp : UInt64) :
    (hub.survey now stamp).1.crossed = hub.crossed := by
  have silent : (hub.registered.reverse.flatMap (hub.turnReports now stamp)).filterMap
      Report.crossing? = [] := by
    rw [List.filterMap_flatMap]
    exact List.flatMap_eq_nil_iff.2 fun id _ => hub.crossing?_turnReports now stamp id
  rw [crossed, survey_reports wellFormed, List.filterMap_append, silent, List.nil_append, crossed]

theorem crossed_admission (hub : Hub) (id : ConnectionId) (identity : Identity)
    (version : UInt32) : (hub.admission id identity version).crossed = hub.crossed := by
  rw [admission, register]
  split
  · rfl
  · split <;> rfl

theorem crossed_subscribe (hub : Hub) (id : ConnectionId) (events : List EventType)
    (clusters : List String) : (hub.subscribe id events clusters).1.crossed = hub.crossed := by
  rcases hub.subscribe_cases id events clusters with refused | ⟨_, _, _, -, accepted⟩
  · rw [refused]
  · rw [accepted]
    rfl

theorem crossed_apply (wellFormed : hub.WellFormed) {operation : Operation}
    (handsOff : operation.isHandsOff = true) : (hub.apply operation).crossed = hub.crossed := by
  cases operation with
  | register id identity version => exact hub.crossed_admission id identity version
  | subscribe id events clusters => exact hub.crossed_subscribe id events clusters
  | unsubscribe id events => rfl
  | tend id upkeep => rfl
  | beginDraining id reason => exact hub.crossed_beginDraining id reason
  | markClosed id => rfl
  | beginClose id reason =>
      rw [apply]
      cases begun : hub.beginClose? id reason with
      | none => rfl
      | some next => exact crossed_beginClose? begun
  | finishClose id asked => exact hub.crossed_finishClose id asked
  | close id reason => exact hub.crossed_close id reason
  | survey now stamp => exact crossed_survey wellFormed now stamp
  | tick now stamp => exact (crossed_closeAll _ _ _).trans (crossed_survey wellFormed now stamp)
  | shutdown => exact crossed_closeAll _ _ _
  | report entry => exact hub.crossed_report handsOff
  | route _ | dequeue _ | clear _ => cases handsOff

theorem marks_apply (wellFormed : hub.WellFormed) {operation : Operation}
    (handsOff : operation.isHandsOff = true) :
    Marks hub [] (fun _ => 0) (hub.apply operation) := by
  refine .still (fun id kind => ?_) (crossed_apply wellFormed handsOff)
  cases operation with
  | tend other upkeep =>
      refine made_modify hub other (fun connection => ?_) id kind
      obtain ⟨heartbeat, control, attached, finished, applied⟩ := upkeep.apply_eq connection
      rw [applied]
  | route _ | dequeue _ | clear _ => cases handsOff
  | _ => exact made_of_keeps (keeps_apply wellFormed id _ rfl rfl) kind

/-! Routing reports each crossing that it makes. -/

theorem marks_deliver (wellFormed : hub.WellFormed) (payload : Payload) (report : RouteReport)
    (id : ConnectionId) :
    ∃ entries, Marks hub entries (fun _ => 0) (deliver payload (hub, report) id).1 := by
  cases reached : hub.isReached id with
  | false =>
      rw [deliver_of_not_reached reached]
      exact ⟨[], .refl hub⟩
  | true =>
      obtain ⟨connection, found, opened, offered⟩ := offered_of_reached reached payload
      have stored := put_eq_modify wellFormed found (Connection.take payload)
        (connection.id_take payload)
      have taken : connection.take payload =
          { connection with buffer := (connection.buffer.enqueue payload).1 } := by
        rw [Connection.take, if_pos opened]
      have crosses := Buffer.crosses_enqueue connection.buffer payload
      have turns : Turns hub (hub.modify id (Connection.take payload)) id
          (connection.buffer.enqueue payload).2.crossing :=
        turns_modify found (by rw [taken]; exact crosses)
      have delivers : (deliver payload (hub, report) id).1 =
          (hub.modify id (Connection.take payload)).reportCrossing id
            (connection.buffer.enqueue payload).2.crossing := by
        simp only [deliver, offered, stored]
      rw [delivers]
      exact ⟨_, .tells (turns.reportCrossing _) (crossed_reportCrossing _ id _)⟩

theorem marks_route (wellFormed : hub.WellFormed) (event : Event) :
    ∃ entries, Marks hub entries (fun _ => 0) (hub.route event).1 := by
  have delivered : Hub.WellFormed _ ∧ ∃ entries, Marks hub entries (fun _ => 0) _ :=
    List.foldlRecOn
      (motive := fun (state : Hub × RouteReport) =>
        state.1.WellFormed ∧ ∃ entries, Marks hub entries (fun _ => 0) state.1)
      (hub.index.matching event.eventType event.cluster) (deliver event.toPayload)
      (b := (hub, { matched := (hub.index.matching event.eventType event.cluster).length }))
      ⟨wellFormed, [], .refl hub⟩
      fun state ⟨between, entries, marks⟩ id _ => by
        obtain ⟨more, delivers⟩ := marks_deliver between event.toPayload state.2 id
        exact ⟨(effect_deliver between event.toPayload state.2 id).wellFormed, _,
          marks.trans delivers⟩
  obtain ⟨-, entries, marks⟩ := delivered
  exact ⟨entries, marks.paused, marks.resumed, marks.crossed⟩

/-! What is exported of all the crossings, and the counts of all the buffers. -/

/-- How often the sink heard of this crossing. -/
def told (hub : Hub) (id : ConnectionId) (kind : Crossing) : Nat :=
  hub.crossed.count (id, kind)

/-- How often the buffers have crossed a mark, by their own counts. -/
def totalMade (hub : Hub) (kind : Crossing) : Nat :=
  (hub.connections.values.map fun connection => connection.buffer.made kind).sum

theorem totalMade_eq (hub : Hub) (kind : Crossing) :
    hub.totalMade kind = (hub.connections.keys.map fun id => hub.made id kind).sum := by
  rw [totalMade, Table.values, Table.keys, List.map_map, List.map_map]
  refine congrArg List.sum (List.map_congr_left fun entry member => ?_)
  have found : hub.get? entry.1 = some entry.2 := Table.get?_eq_some_iff.2 member
  simp [made, found]

theorem mem_keys_of_made {kind : Crossing} (crosses : hub.made id kind ≠ 0) :
    id ∈ hub.connections.keys := by
  rw [made] at crosses
  cases found : hub.get? id with
  | none =>
      rw [found] at crosses
      exact absurd rfl crosses
  | some connection => exact List.mem_map_of_mem (Table.get?_eq_some_iff.1 found)

theorem sum_count {keys : List ConnectionId} (distinct : keys.Nodup) (kind : Crossing)
    {entries : List (ConnectionId × Crossing)} (known : ∀ entry ∈ entries, entry.1 ∈ keys) :
    (keys.map fun key => entries.count (key, kind)).sum =
      entries.countP fun entry => entry.2 = kind := by
  rw [← List.sum_toFinset _ distinct]
  induction entries with
  | nil => simp
  | cons entry rest ih =>
      obtain ⟨own, others⟩ := List.forall_mem_cons.1 known
      obtain ⟨id, crossing⟩ := entry
      have isKey : id ∈ keys.toFinset := List.mem_toFinset.2 own
      simp only [List.count_cons, Finset.sum_add_distrib, ih others, List.countP_cons, beq_iff_eq,
        Prod.mk.injEq, decide_eq_true_eq]
      by_cases same : crossing = kind <;> simp [same, isKey]

end Hub

/-- How often a crossing is exported. -/
def Metrics.transitions (metrics : Metrics) (kind : Crossing) : Nat :=
  (metrics.crossings.get? kind).getD 0

theorem Metrics.transitions_withReports (before : Metrics) (reports : List Report)
    (kind : Crossing) :
    (before.withReports reports).transitions kind = before.transitions kind +
      (reports.filterMap Report.crossing?).countP fun entry => entry.2 = kind := by
  induction reports with
  | nil => rfl
  | cons entry rest ih =>
      have applied : before.withReports (entry :: rest) =
          (before.withReports rest).apply entry := rfl
      rw [applied]
      cases entry with
      | crossed id crossing =>
          have counted := get?_count (before.withReports rest).crossings crossing kind
          simp only [transitions, apply, counted] at ih ⊢
          simp [ih, Report.crossing?, List.countP_cons, Nat.add_assoc]
      | _ => exact ih

namespace Hub

/-- The counts of the buffers and what the sink heard, for each connection and for all of those that
were ever taken in. They differ by the untold resumes and by nothing else. -/
structure CrossingBooks (hub : Hub) (metrics : Metrics) (untold : ConnectionId → Nat) : Prop where
  paused : ∀ id, hub.told id .paused = hub.made id .paused
  resumed : ∀ id, hub.told id .resumed + untold id = hub.made id .resumed
  totalPaused : metrics.transitions .paused = hub.totalMade .paused
  totalResumed : metrics.transitions .resumed + (hub.connections.keys.map untold).sum =
    hub.totalMade .resumed
  balanced : metrics.transitions .resumed = hub.totalMade .resumed ↔ ∀ id, untold id = 0

variable {hub : Hub} {entries : List (ConnectionId × Crossing)} {untold : ConnectionId → Nat}

/-- Only those who were taken in cross a mark, so all that is heard is about them. -/
theorem transitions_eq
    (resumed : ∀ id, hub.told id .resumed + untold id = hub.made id .resumed)
    (paused : ∀ id, hub.told id .paused = hub.made id .paused)
    (requests : Table RequestLabels RequestTally) (activeRequests : Nat) (kind : Crossing) :
    (Metrics.withReports { requests, activeRequests } hub.reports).transitions kind =
      (hub.connections.keys.map fun id => hub.told id kind).sum := by
  have known : ∀ entry ∈ hub.crossed, entry.1 ∈ hub.connections.keys := by
    rintro ⟨id, kind⟩ member
    have heard : 0 < hub.told id kind := List.count_pos_iff.2 member
    have crosses : hub.made id kind ≠ 0 := by
      cases kind with
      | paused =>
          rw [← paused]
          omega
      | resumed =>
          rw [← resumed]
          omega
    exact mem_keys_of_made crosses
  rw [Metrics.transitions_withReports]
  exact (Nat.zero_add _).trans (sum_count hub.connections.distinct kind known).symm

/-- What a hub has reported since its start is all that its buffers count but for what is untold. -/
theorem Marks.books {config : HubConfig} (marks : Marks (ofConfig config) entries untold hub)
    (requests : Table RequestLabels RequestTally) (activeRequests : Nat) :
    hub.CrossingBooks (Metrics.withReports { requests, activeRequests } hub.reports) untold := by
  have log : hub.crossed = entries := marks.crossed.trans (List.append_nil entries)
  have paused (id : ConnectionId) : hub.told id .paused = hub.made id .paused := by
    rw [told, log, marks.paused]
    exact (Nat.zero_add _).symm
  have resumed (id : ConnectionId) : hub.told id .resumed + untold id = hub.made id .resumed := by
    rw [told, log, marks.resumed]
    exact congrArg (· + untold id) (Nat.zero_add _).symm
  have exported := transitions_eq resumed paused requests activeRequests
  have totalResumed : (Metrics.withReports { requests, activeRequests } hub.reports).transitions
      .resumed + (hub.connections.keys.map untold).sum = hub.totalMade .resumed := by
    rw [exported, ← List.sum_map_add, hub.totalMade_eq]
    simp only [resumed]
  have balanced : (Metrics.withReports { requests, activeRequests } hub.reports).transitions
      .resumed = hub.totalMade .resumed ↔ ∀ id, untold id = 0 := by
    rw [← totalResumed, Nat.left_eq_add, List.sum_eq_zero_iff_forall_eq_nat, List.forall_mem_map]
    refine ⟨fun nothing id => ?_, fun nothing id _ => nothing id⟩
    by_contra left
    have crosses : hub.made id .resumed ≠ 0 := by
      rw [← resumed]
      omega
    exact left (nothing id (mem_keys_of_made crosses))
  refine ⟨paused, resumed, ?_, totalResumed, balanced⟩
  rw [exported, hub.totalMade_eq]
  simp only [paused]

end Hub

end EventHub
