import EventHub.Proofs.Hub.Ledger
import EventHub.Proofs.Hub.Offer
import Mathlib.Data.List.Basic

/-!
What an event does on its way through the connections, and what the statistics of events count. A
routed event is enqueued once for each connection whose buffer takes it, and an older payload is
dropped wherever that buffer is full. No other operation counts there.
-/

namespace EventHub.Hub

/-- The connections that an event is enqueued for. -/
def takers (hub : Hub) (event : Event) : List ConnectionId :=
  hub.registered.filter fun id =>
    (hub.standing id).isOpen && (hub.standing id).holding.wants event

/-- Those of them that drop an older payload for it. -/
def overflows (hub : Hub) (event : Event) : List ConnectionId :=
  (hub.takers event).filter fun id => (hub.get? id).any fun connection => connection.buffer.isFull

variable {hub next : Hub}

/-- A connection that is handed a payload takes it if it is registered and open. -/
def isReached (hub : Hub) (id : ConnectionId) : Bool :=
  hub.isRegistered id && hub.isOpen id

def isOverflowing (hub : Hub) (id : ConnectionId) : Bool :=
  hub.isReached id && (hub.get? id).any fun connection => connection.buffer.isFull

/-- What the hub reports of one hand-over. -/
def crossings (hub : Hub) (payload : Payload) (id : ConnectionId) : List Report :=
  if hub.isReached id then
    ((hub.get? id).bind fun connection =>
      (connection.buffer.enqueue payload).2.crossing).toList.map (.crossed id)
  else []

/-- One hand-over as a change of the table of connections, where `reached` take what they are
given. -/
def handOver (reached : ConnectionId → Bool) (payload : Payload)
    (connections : Table ConnectionId Connection) (id : ConnectionId) :
    Table ConnectionId Connection :=
  if reached id then connections.update id (Connection.take payload) else connections

section HandingOver

variable {payload : Payload} {id : ConnectionId} {report : RouteReport}

theorem offered_of_reached (reached : hub.isReached id = true) (payload : Payload) :
    ∃ connection, hub.get? id = some connection ∧ connection.isOpen = true ∧
      (hub.find? id).bind (fun connection => connection.enqueue? payload) =
        some (connection.take payload, (connection.buffer.enqueue payload).2) := by
  obtain ⟨registered, opened⟩ := (Bool.and_eq_true _ _).mp reached
  obtain ⟨connection, found, isOpen⟩ := (Option.any_eq_true _ _).1 opened
  refine ⟨connection, found, isOpen, ?_⟩
  rw [find?_eq_some_iff.2 ⟨registered, found⟩, Option.bind_some, Connection.enqueue?, if_pos isOpen,
    Connection.take, if_pos isOpen]

theorem offered_of_missed (missed : hub.isReached id = false) (payload : Payload) :
    (hub.find? id).bind (fun connection => connection.enqueue? payload) = none := by
  rw [Option.bind_eq_none_iff]
  intro connection finds
  obtain ⟨registered, found⟩ := find?_eq_some_iff.1 finds
  refine if_neg fun opened => ?_
  have reached : hub.isReached id = true := by simp [isReached, registered, isOpen, found, opened]
  cases reached.symm.trans missed

theorem reportCrossing_eq (hub : Hub) (id : ConnectionId) (crossing : Option Crossing) :
    hub.reportCrossing id crossing =
      { hub with reports := crossing.toList.map (Report.crossed id) ++ hub.reports } := by
  cases crossing with
  | none => rfl
  | some crossing => rfl

theorem deliver_of_reached (wellFormed : hub.WellFormed) (reached : hub.isReached id = true) :
    deliver payload (hub, report) id =
      ({ hub with
          connections := handOver hub.isReached payload hub.connections id
          reports := hub.crossings payload id ++ hub.reports },
        { report with
          delivered := report.delivered + 1
          dropped := report.dropped + if hub.isOverflowing id then 1 else 0 }) := by
  obtain ⟨connection, found, -, offered⟩ := offered_of_reached reached payload
  have stored := put_eq_modify wellFormed found (Connection.take payload)
    (connection.id_take payload)
  have overflowing : hub.isOverflowing id = connection.buffer.isFull := by
    simp [isOverflowing, reached, found]
  have reports : hub.crossings payload id =
      (connection.buffer.enqueue payload).2.crossing.toList.map (.crossed id) := by
    simp [crossings, reached, found]
  have accepted : (connection.buffer.enqueue payload).2.accepted = !connection.buffer.isFull := rfl
  rw [overflowing, reports, handOver, if_pos reached]
  simp only [deliver, offered, stored, reportCrossing_eq, accepted]
  cases connection.buffer.isFull with
  | true => rfl
  | false => rfl

theorem deliver_of_not_reached (missed : hub.isReached id = false) :
    deliver payload (hub, report) id = (hub, { report with skipped := report.skipped + 1 }) := by
  simp only [deliver, offered_of_missed missed]

theorem get?_handOver (reached : ConnectionId → Bool) (payload : Payload)
    (connections : Table ConnectionId Connection) {id other : ConnectionId}
    (different : other ≠ id) :
    (handOver reached payload connections id).get? other = connections.get? other := by
  rw [handOver]
  split
  · rw [Table.get?_update, if_neg different]
  · rfl

theorem any_isOpen_handOver (reached : ConnectionId → Bool) (payload : Payload)
    (connections : Table ConnectionId Connection) (id other : ConnectionId) :
    ((handOver reached payload connections id).get? other).any Connection.isOpen =
      (connections.get? other).any Connection.isOpen := by
  rw [handOver]
  split
  · rw [Table.get?_update]
    split
    · rw [Option.any_map]
      exact congrArg (fun accepts => (connections.get? other).any accepts)
        (funext fun connection => connection.isOpen_take payload)
    · rfl
  · rfl

/-- Whom it is handed to first makes no difference to what the others are handed. -/
theorem deliveries_eq (wellFormed : hub.WellFormed) (payload : Payload)
    {ids : List ConnectionId} (distinct : ids.Nodup) (report : RouteReport) :
    ids.foldl (deliver payload) (hub, report) =
      ({ hub with
          connections := ids.foldl (handOver hub.isReached payload) hub.connections
          reports := ids.reverse.flatMap (hub.crossings payload) ++ hub.reports },
        { report with
          delivered := report.delivered + ids.countP hub.isReached
          dropped := report.dropped + ids.countP hub.isOverflowing
          skipped := report.skipped + ids.countP fun id => !hub.isReached id }) := by
  induction ids generalizing hub report with
  | nil => rfl
  | cons head rest ih =>
      obtain ⟨absent, distinct⟩ := List.nodup_cons.1 distinct
      rw [List.foldl_cons]
      cases reached : hub.isReached head with
      | false =>
          have overflowing : hub.isOverflowing head = false := by simp [isOverflowing, reached]
          have silent : hub.crossings payload head = [] := by simp [crossings, reached]
          have kept : handOver hub.isReached payload hub.connections head = hub.connections := by
            simp [handOver, reached]
          rw [deliver_of_not_reached reached, ih wellFormed distinct]
          simp [reached, overflowing, silent, kept, Nat.add_assoc, Nat.add_comm 1]
      | true =>
          have effect := effect_deliver wellFormed payload report head
          rw [deliver_of_reached wellFormed reached] at effect ⊢
          generalize isNext : ({ hub with
            connections := handOver hub.isReached payload hub.connections head
            reports := hub.crossings payload head ++ hub.reports } : Hub) = next at effect ⊢
          have isReached_eq : next.isReached = hub.isReached := by
            subst isNext
            exact funext fun other => congrArg (hub.isRegistered other && ·)
              (any_isOpen_handOver hub.isReached payload hub.connections head other)
          have get?_eq {id : ConnectionId} (member : id ∈ rest) : next.get? id = hub.get? id := by
            subst isNext
            exact get?_handOver _ _ _ (ne_of_mem_of_not_mem member absent)
          have overflowing : rest.countP next.isOverflowing = rest.countP hub.isOverflowing :=
            List.countP_congr fun id member => by
              rw [isOverflowing, isOverflowing, isReached_eq, get?_eq member]
          have reports : rest.reverse.flatMap (next.crossings payload) =
              rest.reverse.flatMap (hub.crossings payload) :=
            List.flatMap_congr fun id member => by
              rw [crossings, crossings, isReached_eq, get?_eq (List.mem_reverse.1 member)]
          rw [ih effect.wellFormed distinct, overflowing, reports, isReached_eq, ← isNext]
          simp [reached, List.countP_cons, Nat.add_assoc, Nat.add_comm 1, Nat.add_comm (ite _ _ _)]

end HandingOver

theorem perm_takers (wellFormed : hub.WellFormed) (event : Event) :
    ((hub.index.matching event.eventType event.cluster).filter hub.isReached).Perm
      (hub.takers event) := by
  rw [takers, List.perm_ext_iff_of_nodup ((hub.index.nodup_matching _ _).filter _)
    (wellFormed.distinct.filter _)]
  intro id
  rw [List.mem_filter, List.mem_filter, SubscriptionIndex.mem_matching, ← isRegistered_iff,
    isReached, Bool.and_eq_true, Bool.and_eq_true]
  constructor
  · rintro ⟨wants, registered, opened⟩
    exact ⟨registered, opened, wants⟩
  · rintro ⟨registered, opened, wants⟩
    exact ⟨wants, registered, opened⟩

theorem totals_route (wellFormed : hub.WellFormed) (event : Event) :
    (hub.route event).1.totals =
      { hub.totals with
        events := hub.totals.events + 1
        delivered := hub.totals.delivered + (hub.takers event).length
        dropped := hub.totals.dropped + (hub.overflows event).length } := by
  have perm := perm_takers wellFormed event
  have delivered := congrArg Prod.snd (deliveries_eq wellFormed event.toPayload
    (hub.index.nodup_matching event.eventType event.cluster)
    { matched := (hub.index.matching event.eventType event.cluster).length })
  have quiet := quiet_deliveries wellFormed event
  have takers : (hub.index.matching event.eventType event.cluster).countP hub.isReached =
      (hub.takers event).length := by
    rw [List.countP_eq_length_filter, perm.length_eq]
  have overflows : (hub.index.matching event.eventType event.cluster).countP hub.isOverflowing =
      (hub.overflows event).length := by
    rw [Hub.overflows, ← List.countP_eq_length_filter, ← perm.countP_eq, List.countP_filter]
    exact List.countP_congr fun id _ => by simp [isOverflowing, and_comm]
  rw [takers, overflows] at delivered
  simp only [route, countRouted, Hub.report, quiet.totals, delivered]
  simp

/-- Nobody comes in, nothing is subscribed to or given up by itself, and no event is routed. -/
def Operation.isStaid : Operation → Bool
  | .register _ _ _ | .subscribe _ _ _ | .unsubscribe _ _ | .route _ => false
  | .dequeue _ | .clear _ | .tend _ _ | .beginDraining _ _ | .markClosed _ | .beginClose _ _
  | .finishClose _ _ | .close _ _ | .survey _ _ | .tick _ _ | .shutdown | .report _ => true

theorem totals_beginDraining (hub : Hub) (id : ConnectionId) (reason : CloseReason) :
    (hub.beginDraining id reason).1.totals = hub.totals := by
  rw [beginDraining]
  split <;> rfl

theorem totals_beginClose? {id : ConnectionId} {reason : CloseReason}
    (begun : hub.beginClose? id reason = some next) : next.totals = hub.totals := by
  obtain ⟨detached, detaches, rfl⟩ := Option.map_eq_some_iff.1 begun
  have drained := detached.totals_beginDraining id reason
  obtain ⟨-, rfl⟩ := detach?_eq_some_iff.1 detaches
  exact drained

theorem totals_finishClose (hub : Hub) (id : ConnectionId) (asked : CloseReason) :
    ∃ evictions, (hub.finishClose id asked).totals = { hub.totals with evictions } := by
  obtain ⟨reason, -, -, totals, -⟩ := hub.finishClose_books .start id asked
  exact ⟨_, totals⟩

theorem totals_close (hub : Hub) (id : ConnectionId) (reason : CloseReason) :
    ∃ evictions, (hub.close id reason).1.totals = { hub.totals with evictions } := by
  rw [close]
  split
  · rename_i closing begun
    obtain ⟨evictions, totals⟩ := closing.totals_finishClose id reason
    exact ⟨evictions, by rw [totals, totals_beginClose? begun]⟩
  · exact ⟨_, rfl⟩

theorem totals_closeAll (hub : Hub) (reason : CloseReason) (ids : List ConnectionId) :
    ∃ evictions, (hub.closeAll reason ids).totals = { hub.totals with evictions } := by
  induction ids generalizing hub with
  | nil => exact ⟨_, rfl⟩
  | cons id rest ih =>
      obtain ⟨_, first⟩ := hub.totals_close id reason
      obtain ⟨evictions, later⟩ := ih (hub.close id reason).1
      exact ⟨evictions, by rw [closeAll, List.foldl_cons, ← closeAll, later, first]⟩

theorem totals_apply (wellFormed : hub.WellFormed) {operation : Operation}
    (staid : operation.isStaid = true) :
    ∃ evictions, (hub.apply operation).totals = { hub.totals with evictions } := by
  cases operation with
  | register _ _ _ | subscribe _ _ _ | unsubscribe _ _ | route _ => cases staid
  | dequeue id | clear id | tend id upkeep | markClosed id | report entry => exact ⟨_, rfl⟩
  | beginDraining id reason => exact ⟨_, hub.totals_beginDraining id reason⟩
  | beginClose id reason =>
      rw [apply]
      cases begun : hub.beginClose? id reason with
      | none => exact ⟨_, rfl⟩
      | some next => exact ⟨_, totals_beginClose? begun⟩
  | finishClose id asked => exact hub.totals_finishClose id asked
  | close id reason => exact hub.totals_close id reason
  | survey now stamp => exact ⟨_, (quiet_survey wellFormed now stamp).totals⟩
  | tick now stamp =>
      obtain ⟨evictions, totals⟩ :=
        (hub.survey now stamp).1.totals_closeAll .heartbeatTimeout (hub.survey now stamp).2.evicted
      rw [(quiet_survey wellFormed now stamp).totals] at totals
      exact ⟨evictions, totals⟩
  | shutdown => exact hub.totals_closeAll .serverShutdown hub.registered

/-- The events and what became of them are counted the same. -/
structure SameTraffic (hub next : Hub) : Prop where
  events : next.totals.events = hub.totals.events
  delivered : next.totals.delivered = hub.totals.delivered
  dropped : next.totals.dropped = hub.totals.dropped

theorem traffic_apply (wellFormed : hub.WellFormed) {operation : Operation}
    (quiet : operation.isRoute = false) : SameTraffic hub (hub.apply operation) := by
  cases staid : operation.isStaid with
  | true =>
      obtain ⟨evictions, totals⟩ := totals_apply wellFormed staid
      exact ⟨by rw [totals], by rw [totals], by rw [totals]⟩
  | false =>
      cases operation with
      | route event => cases quiet
      | register id identity version =>
          rw [apply, admission, register]
          split
          · exact ⟨rfl, rfl, rfl⟩
          · split <;> exact ⟨rfl, rfl, rfl⟩
      | subscribe id events clusters =>
          rw [apply]
          rcases hub.subscribe_cases id events clusters with refused | ⟨_, _, _, -, accepted⟩
          · rw [refused]
            exact ⟨rfl, rfl, rfl⟩
          · rw [accepted]
            exact ⟨rfl, rfl, rfl⟩
      | unsubscribe id events => exact ⟨rfl, rfl, rfl⟩
      | _ => cases staid

theorem traffic_run (wellFormed : hub.WellFormed) {operations : List Operation}
    (quiet : ∀ operation ∈ operations, operation.isRoute = false) :
    SameTraffic hub (hub.run operations) := by
  induction operations generalizing hub with
  | nil => exact ⟨rfl, rfl, rfl⟩
  | cons operation rest ih =>
      obtain ⟨first, quiet⟩ := List.forall_mem_cons.1 quiet
      have earlier := traffic_apply wellFormed first
      have later := ih (effect_apply wellFormed operation).wellFormed quiet
      exact ⟨later.events.trans earlier.events, later.delivered.trans earlier.delivered,
        later.dropped.trans earlier.dropped⟩

end EventHub.Hub
