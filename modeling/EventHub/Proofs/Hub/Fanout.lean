import EventHub.Proofs.Hub.BufferHistory
import EventHub.Proofs.Hub.Traffic
import Mathlib.Data.Set.Card

/-!
One event on its way to all connections at once. Every connection that wants it is in exactly one
class: it takes the event, with or without dropping an older payload, or it is closing and is left
out. Nothing else moves, and since no hand-over decides anything for another connection, the order
in which the connections are visited does not matter.
-/

namespace EventHub

namespace Hub

/-- The subscription of the connection for the event's type accepts the event's cluster. -/
def Wants (hub : Hub) (event : Event) (id : ConnectionId) : Prop :=
  ∃ filter, hub.index.filter? id event.eventType = some filter ∧
    filter.accepts event.cluster = true

def IsFull (hub : Hub) (id : ConnectionId) : Prop :=
  ∃ connection, hub.get? id = some connection ∧ connection.buffer.isFull = true

/-- The event handed to these connections, one after the other. -/
def routeAlong (hub : Hub) (event : Event) (order : List ConnectionId) : Hub × RouteReport :=
  let (next, report) :=
    order.foldl (deliver event.toPayload) (hub, { matched := order.length })
  (next.countRouted report, report)

/-- The two differ at most in the order of what was reported. -/
def Rearranged (before after : Hub) : Prop :=
  ∃ reports, after = { before with reports } ∧ reports.Perm before.reports

/-- What routing the event does and what it tells of it. The connections that want the event are
counted in classes; those that are open take it, and everything else stays as it is. -/
structure Fanout (hub : Hub) (event : Event) : Prop where
  matched : {id | hub.Wants event id}.encard = (hub.route event).2.matched
  delivered :
    {id | hub.Wants event id ∧ hub.isOpen id = true}.encard = (hub.route event).2.delivered
  skipped :
    {id | hub.Wants event id ∧ hub.isOpen id = false}.encard = (hub.route event).2.skipped
  dropped :
    {id | hub.Wants event id ∧ hub.isOpen id = true ∧ hub.IsFull id}.encard =
      (hub.route event).2.dropped
  balanced :
    (hub.route event).2.matched = (hub.route event).2.delivered + (hub.route event).2.skipped
  dropped_le : (hub.route event).2.dropped ≤ (hub.route event).2.delivered
  taken : ∀ id connection, hub.get? id = some connection → hub.Wants event id →
    connection.isOpen = true → ∃ buffer,
      (hub.route event).1.get? id = some { connection with buffer } ∧
        buffer = (connection.buffer.enqueue event.toPayload).1 ∧
        buffer.queue =
          (if connection.buffer.isFull then connection.buffer.queue.tail
            else connection.buffer.queue) ++ [event.toPayload]
  others : ∀ id, ¬(hub.Wants event id ∧ hub.isOpen id = true) →
    (hub.route event).1.get? id = hub.get? id
  heartbeats : ∀ id,
    ((hub.route event).1.get? id).map Connection.heartbeat =
      (hub.get? id).map Connection.heartbeat
  registered : (hub.route event).1.registered = hub.registered
  index : (hub.route event).1.index = hub.index
  config : (hub.route event).1.config = hub.config
  totals : (hub.route event).1.totals =
    { hub.totals with
      events := hub.totals.events + 1
      delivered := hub.totals.delivered + (hub.route event).2.delivered
      dropped := hub.totals.dropped + (hub.route event).2.dropped }
  anyOrder : ∀ order : List ConnectionId, order.Nodup →
    (∀ id, id ∈ order ↔ hub.Wants event id) →
      (hub.routeAlong event order).2 = (hub.route event).2 ∧
        (hub.route event).1.Rearranged (hub.routeAlong event order).1

variable {hub : Hub} {event : Event} {id : ConnectionId}

theorem mem_matching_iff :
    id ∈ hub.index.matching event.eventType event.cluster ↔ hub.Wants event id := by
  rw [SubscriptionIndex.mem_matching, Holding.wants, Option.any_eq_true]
  rfl

/-! The order of the hand-overs. -/

theorem routeAlong_eq (wellFormed : hub.WellFormed) (event : Event)
    {order : List ConnectionId} (distinct : order.Nodup) :
    hub.routeAlong event order =
      ((({ hub with
          connections := order.foldl (handOver hub.isReached event.toPayload) hub.connections
          reports := order.reverse.flatMap (hub.crossings event.toPayload) ++ hub.reports } :
            Hub).countRouted
          { matched := order.length
            delivered := order.countP hub.isReached
            dropped := order.countP hub.isOverflowing
            skipped := order.countP fun id => !hub.isReached id }),
        { matched := order.length
          delivered := order.countP hub.isReached
          dropped := order.countP hub.isOverflowing
          skipped := order.countP fun id => !hub.isReached id }) := by
  simp only [routeAlong, deliveries_eq wellFormed event.toPayload distinct, Nat.zero_add]

theorem handOver_comm (reached : ConnectionId → Bool) (payload : Payload)
    (connections : Table ConnectionId Connection) (first second : ConnectionId) :
    handOver reached payload (handOver reached payload connections first) second =
      handOver reached payload (handOver reached payload connections second) first := by
  simp only [handOver]
  split
  · split
    · exact connections.update_comm first second _
    · rfl
  · rfl

theorem routeAlong_perm (wellFormed : hub.WellFormed) (event : Event)
    {order other : List ConnectionId} (perm : order.Perm other) (distinct : other.Nodup) :
    (hub.routeAlong event order).2 = (hub.routeAlong event other).2 ∧
      (hub.routeAlong event other).1.Rearranged (hub.routeAlong event order).1 := by
  have connections : order.foldl (handOver hub.isReached event.toPayload) hub.connections =
      other.foldl (handOver hub.isReached event.toPayload) hub.connections :=
    perm.foldl_eq' (fun first _ second _ table => handOver_comm _ _ table first second) _
  have reports : (order.reverse.flatMap (hub.crossings event.toPayload)).Perm
      (other.reverse.flatMap (hub.crossings event.toPayload)) :=
    ((order.reverse_perm.trans perm).trans other.reverse_perm.symm).flatMap_right _
  rw [routeAlong_eq wellFormed event distinct,
    routeAlong_eq wellFormed event (perm.nodup_iff.2 distinct), connections, perm.length_eq,
    perm.countP_eq, perm.countP_eq, perm.countP_eq]
  exact ⟨rfl, _, rfl, (reports.append_right _).cons _⟩

/-! What routing does, seen from the connections. -/

/-- Those who want the event are walked through once each, so that a count tells how many of them
there are. -/
theorem encard_wanting {wanting : Set ConnectionId} {decides : ConnectionId → Bool}
    (decided : ∀ id, id ∈ wanting ↔ hub.Wants event id ∧ decides id = true) :
    wanting.encard = (hub.index.matching event.eventType event.cluster).countP decides := by
  have isList : wanting =
      (((hub.index.matching event.eventType event.cluster).filter decides).toFinset :
        Set ConnectionId) := by
    ext id
    simp [decided, mem_matching_iff]
  have distinct := (hub.index.nodup_matching event.eventType event.cluster).filter decides
  rw [isList, Set.encard_coe_eq_coe_finsetCard, List.toFinset_card_of_nodup distinct,
    List.countP_eq_length_filter]

theorem get?_route (wellFormed : hub.WellFormed) (event : Event) (id : ConnectionId) :
    (hub.route event).1.get? id = ((hub.standing id).offer event).connection :=
  congrArg Standing.connection ((effect_route wellFormed event).standing id)

theorem get?_route_of_ignored (wellFormed : hub.WellFormed)
    (ignored : ¬(hub.Wants event id ∧ hub.isOpen id = true)) :
    (hub.route event).1.get? id = hub.get? id := by
  have same : (hub.standing id).offer event = hub.standing id :=
    Standing.offer_of_ignored fun ⟨_, opened, wants⟩ =>
      ignored ⟨mem_matching_iff.1 (SubscriptionIndex.mem_matching.2 wants), opened⟩
  rw [get?_route wellFormed, same]
  rfl

theorem Sound.isReached_eq (sound : hub.Sound) : hub.isReached = hub.isOpen := by
  funext id
  cases opened : hub.isOpen id with
  | true =>
      have registered : hub.isRegistered id = true :=
        (sound.standing id).registered_of_isOpen opened
      rw [isReached, opened, registered]
      rfl
  | false => rw [isReached, opened, Bool.and_false]

theorem Sound.get?_route_of_taken (sound : hub.Sound) {connection : Connection}
    (found : hub.get? id = some connection) (wants : hub.Wants event id)
    (opened : connection.isOpen = true) :
    (hub.route event).1.get? id =
      some { connection with buffer := (connection.buffer.enqueue event.toPayload).1 } := by
  have stored : (hub.standing id).connection = some connection := found
  have isOpen : (hub.standing id).isOpen = true := by rwa [Standing.isOpen, stored]
  rw [get?_route sound.wellFormed]
  exact Standing.offer_of_taken stored ((sound.standing id).registered_of_isOpen isOpen) opened
    (SubscriptionIndex.mem_matching.1 (mem_matching_iff.2 wants))

theorem isOverflowing_iff :
    hub.isOverflowing id = true ↔ hub.isReached id = true ∧ hub.IsFull id := by
  rw [isOverflowing, Bool.and_eq_true, Option.any_eq_true]
  rfl

theorem Sound.fanout (sound : hub.Sound) (event : Event) : hub.Fanout event := by
  have wellFormed := sound.wellFormed
  have quiet := quiet_deliveries wellFormed event
  let targets := hub.index.matching event.eventType event.cluster
  have distinct : targets.Nodup := hub.index.nodup_matching event.eventType event.cluster
  have routed : (hub.route event).2 =
      { matched := targets.length
        delivered := targets.countP hub.isOpen
        dropped := targets.countP hub.isOverflowing
        skipped := targets.countP fun id => !hub.isOpen id } := by
    rw [← sound.isReached_eq]
    exact congrArg Prod.snd (routeAlong_eq wellFormed event distinct)
  have heartbeats (id : ConnectionId) : ((hub.route event).1.get? id).map Connection.heartbeat =
      (hub.get? id).map Connection.heartbeat := by
    by_cases taken : hub.Wants event id ∧ hub.isOpen id = true
    · obtain ⟨connection, found, opened⟩ := (Option.any_eq_true _ _).1 taken.2
      rw [sound.get?_route_of_taken found taken.1 opened, found]
      rfl
    · rw [get?_route_of_ignored wellFormed taken]
  refine ⟨?_, ?_, ?_, ?_, ?_, ?_, fun id connection found wants opened => ?_,
    fun id => get?_route_of_ignored wellFormed, heartbeats, quiet.registered, quiet.index,
    (effect_route wellFormed event).config, ?_, fun order single member => ?_⟩
  · rw [routed, ← List.countP_true]
    exact encard_wanting fun id => by simp
  · rw [routed]
    exact encard_wanting fun id => Iff.rfl
  · rw [routed]
    exact encard_wanting fun id => by simp
  · rw [routed]
    exact encard_wanting fun id => by
      rw [isOverflowing_iff, sound.isReached_eq]
      rfl
  · rw [routed]
    simpa using targets.length_eq_countP_add_countP hub.isOpen
  · rw [routed]
    refine List.countP_mono_left fun id _ overflowing => ?_
    rw [isOverflowing_iff, sound.isReached_eq] at overflowing
    exact overflowing.1
  · refine ⟨_, sound.get?_route_of_taken found wants opened, rfl, ?_⟩
    rw [Buffer.queue_enqueue, Buffer.makeRoom]
    split <;> rfl
  · exact congrArg (fun totals : HubTotals => { totals with
      events := totals.events + 1
      delivered := totals.delivered + (hub.route event).2.delivered
      dropped := totals.dropped + (hub.route event).2.dropped }) quiet.totals
  · exact routeAlong_perm wellFormed event
      ((List.perm_ext_iff_of_nodup single distinct).2 fun id =>
        (member id).trans mem_matching_iff.symm) distinct

end Hub

end EventHub
