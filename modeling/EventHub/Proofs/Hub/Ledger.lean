import EventHub.Metrics.Basic
import EventHub.Proofs.Hub.Handling
import Mathlib.Algebra.Ring.Nat

/-!
The hub's books. What is exported is added up from reports, and the statistics are counted beside
them, each number at a place of its own. Every operation of the hub that changes one book changes
the others with it; connections whose close has begun and is not reported yet are the only
difference.
-/

namespace EventHub

namespace Table

variable {κ : Type} [DecidableEq κ]

theorem sum_setEntry (key : κ) (value : Nat) (entries : List (κ × Nat)) :
    ((setEntry key value entries).map (·.2)).sum + (entries.lookup key).getD 0 =
      (entries.map (·.2)).sum + value := by
  induction entries with
  | nil => simp [setEntry]
  | cons entry rest ih =>
      obtain ⟨first, old⟩ := entry
      by_cases isFirst : first = key
      · subst isFirst
        simp only [setEntry, if_true, List.map_cons, List.sum_cons, List.lookup_cons,
          beq_self_eq_true, Option.getD_some]
        omega
      · have differs : (key == first) = false := by simpa using Ne.symm isFirst
        simp only [setEntry, isFirst, if_false, List.map_cons, List.sum_cons, List.lookup_cons,
          differs]
        omega

end Table

theorem length_filter_ne {α : Type} [DecidableEq α] {items : List α} (distinct : items.Nodup)
    {item : α} (member : item ∈ items) :
    (items.filter fun other => other ≠ item).length + 1 = items.length := by
  have erased : (items.filter fun other => other ≠ item) = items.erase item := by
    rw [distinct.erase_eq_filter]
    refine List.filter_congr fun other _ => ?_
    by_cases same : other = item <;> simp [same]
  have nonempty := List.length_pos_of_mem member
  rw [erased, List.length_erase_of_mem member]
  omega

namespace Metrics

theorem sum_count {κ : Type} [DecidableEq κ] (table : Table κ Nat) (key : κ) :
    (count table key).values.sum = table.values.sum + 1 := by
  have sum := Table.sum_setEntry key ((table.get? key).getD 0 + 1) table.entries
  simp only [count, Table.insert, Table.values, Table.get?] at sum ⊢
  omega

theorem get?_count {κ : Type} [DecidableEq κ] (table : Table κ Nat) (key other : κ) :
    ((count table key).get? other).getD 0 =
      (table.get? other).getD 0 + if key = other then 1 else 0 := by
  rw [count, Table.get?_insert]
  by_cases same : other = key
  · simp [same]
  · simp [same, Ne.symm same]

end Metrics

namespace Hub

/-- What is exported when the hub's reports are added to `before`. -/
def metrics (before : Metrics) (hub : Hub) : Metrics :=
  before.withReports hub.reports

/-- Of what is exported, quiet reports change the misses, the crossings and the samples of those who
are registered. -/
theorem Quiet.metrics {hub next : Hub} (quiet : Quiet hub next) (before : Metrics) :
    ∃ misses crossings gauges,
      next.metrics before = { hub.metrics before with misses, crossings, gauges } ∧
        ∀ id, (gauges.get? id).isSome = true →
          ((hub.metrics before).gauges.get? id).isSome = true ∨ hub.isRegistered id = true := by
  obtain ⟨entries, isReports, quietly⟩ := quiet.reports
  rw [Hub.metrics, isReports]
  clear isReports
  induction entries with
  | nil =>
      exact ⟨(hub.metrics before).misses, (hub.metrics before).crossings,
        (hub.metrics before).gauges, rfl, fun _ => Or.inl⟩
  | cons entry rest ih =>
      obtain ⟨isQuiet, quietly⟩ := List.forall_mem_cons.1 quietly
      obtain ⟨misses, crossings, gauges, earlier, series⟩ := ih quietly
      have applied : before.withReports (entry :: rest ++ hub.reports) =
          (before.withReports (rest ++ hub.reports)).apply entry := rfl
      rw [applied, earlier]
      cases entry with
      | crossed id crossing => exact ⟨_, _, _, rfl, series⟩
      | missed id count => exact ⟨_, _, _, rfl, series⟩
      | sampled sample =>
          refine ⟨_, _, _, rfl, fun id present => ?_⟩
          rw [Table.get?_insert] at present
          split at present
          · rename_i same
            exact Or.inr (same ▸ isQuiet)
          · exact series id present
      | opened id => cases isQuiet
      | closed id reason => cases isQuiet
      | routed report => cases isQuiet

theorem finishClose_books (before : Metrics) (hub : Hub) (id : ConnectionId)
    (asked : CloseReason) :
    ∃ reason, (hub.finishClose id asked).connections =
        hub.connections.update id Connection.markClosed ∧
      (hub.finishClose id asked).registered = hub.registered ∧
      (hub.finishClose id asked).totals = { hub.totals with
        evictions := hub.totals.evictions + if reason = .heartbeatTimeout then 1 else 0 } ∧
      (hub.finishClose id asked).metrics before =
        (hub.metrics before).apply (.closed id reason) := by
  refine ⟨((hub.get? id).bind Connection.closeReason).getD asked, ?_⟩
  simp only [finishClose, countEviction]
  split
  · exact ⟨rfl, rfl, rfl, rfl⟩
  · exact ⟨rfl, rfl, rfl, rfl⟩

/-- The statistics, what is exported, and the registry agree, but for the connections in
`leaving`: their close has begun and is not reported yet. -/
structure Ledger (before : Metrics) (hub : Hub) (leaving : List ConnectionId) : Prop where
  wellFormed : hub.WellFormed
  distinct : leaving.Nodup
  away : ∀ id ∈ leaving, hub.isRegistered id = false ∧ (hub.get? id).isSome = true
  opened : (hub.metrics before).opened = hub.totals.connections
  active : (hub.metrics before).active = hub.count + leaving.length
  closed : hub.totals.connections =
    hub.count + leaving.length + (hub.metrics before).closed.values.sum
  routed : (hub.metrics before).eventsRouted = hub.totals.events
  delivered : (hub.metrics before).deliveries = hub.totals.delivered
  dropped : (hub.metrics before).dropped = hub.totals.dropped
  evictions : (hub.metrics before).evictions = hub.totals.evictions
  timeouts : ((hub.metrics before).closed.get? .heartbeatTimeout).getD 0 = hub.totals.evictions
  series : ∀ id, ((hub.metrics before).gauges.get? id).isSome = true →
    hub.isRegistered id = true ∨ id ∈ leaving

namespace Ledger

variable {before : Metrics} {hub next : Hub} {leaving : List ConnectionId} {id : ConnectionId}
  {reason : CloseReason}

theorem of_config (requests : Table RequestLabels RequestTally) (activeRequests : Nat)
    (config : HubConfig) : Ledger { requests, activeRequests } (ofConfig config) [] where
  wellFormed := wellFormed_ofConfig config
  distinct := List.nodup_nil
  away := fun _ absent => nomatch absent
  opened := rfl
  active := rfl
  closed := rfl
  routed := rfl
  delivered := rfl
  dropped := rfl
  evictions := rfl
  timeouts := rfl
  series := fun _ absent => nomatch absent

theorem quiet (ledger : Ledger before hub leaving) (quiet : Quiet hub next) :
    Ledger before next leaving := by
  obtain ⟨misses, crossings, gauges, metrics, series⟩ := quiet.metrics before
  have count : next.count = hub.count := congrArg List.length quiet.registered
  constructor
  case wellFormed => exact quiet.wellFormed
  case distinct => exact ledger.distinct
  case away =>
    intro id member
    rw [quiet.isRegistered, quiet.known]
    exact ledger.away id member
  case series =>
    intro id present
    rw [metrics] at present
    rw [quiet.isRegistered]
    rcases series id present with earlier | registered
    · exact ledger.series id earlier
    · exact Or.inl registered
  case opened => simpa only [metrics, quiet.totals] using ledger.opened
  case active => simpa only [metrics, count] using ledger.active
  case closed => simpa only [metrics, quiet.totals, count] using ledger.closed
  case routed => simpa only [metrics, quiet.totals] using ledger.routed
  case delivered => simpa only [metrics, quiet.totals] using ledger.delivered
  case dropped => simpa only [metrics, quiet.totals] using ledger.dropped
  case evictions => simpa only [metrics, quiet.totals] using ledger.evictions
  case timeouts => simpa only [metrics, quiet.totals] using ledger.timeouts

/-- The index and the number of subscriptions are in no other book. -/
theorem subscriptions (ledger : Ledger before hub leaving) (index : SubscriptionIndex)
    (subscriptions : Nat) :
    Ledger before { hub with index, totals := { hub.totals with subscriptions } } leaving where
  wellFormed := ⟨ledger.wellFormed.named, ledger.wellFormed.known, ledger.wellFormed.distinct,
    ledger.wellFormed.room⟩
  distinct := ledger.distinct
  away := ledger.away
  opened := ledger.opened
  active := ledger.active
  closed := ledger.closed
  routed := ledger.routed
  delivered := ledger.delivered
  dropped := ledger.dropped
  evictions := ledger.evictions
  timeouts := ledger.timeouts
  series := ledger.series

theorem subscribe (ledger : Ledger before hub leaving) (id : ConnectionId)
    (events : List EventType) (clusters : List String) :
    Ledger before (hub.subscribe id events clusters).1 leaving := by
  rcases hub.subscribe_cases id events clusters with refused | ⟨_, index, _, -, accepted⟩
  · rw [refused]
    exact ledger
  · rw [accepted]
    exact ledger.subscriptions index _

theorem register (ledger : Ledger before hub leaving) (fresh : hub.get? id = none)
    {identity : Identity} {version : UInt32}
    (accepted : hub.register id identity version = .ok next) : Ledger before next leaving := by
  have effect := effect_register ledger.wellFormed fresh accepted
  have elsewhere {other : ConnectionId} (member : other ∈ leaving) :
      next.standing other = hub.standing other := by
    rw [effect.standing, Standing.onlyAt, if_neg]
    rintro rfl
    have known := (ledger.away other member).2
    rw [fresh] at known
    cases known
  have stays {other : ConnectionId} (registered : hub.isRegistered other = true) :
      next.isRegistered other = true := by
    have turned := congrArg Standing.registered (effect.standing other)
    rw [Standing.onlyAt] at turned
    split at turned
    · exact turned
    · exact turned.trans registered
  have longer : (hub.registered ++ [id]).length = hub.count + 1 := List.length_append
  simp only [Hub.register] at accepted
  split at accepted
  · cases accepted
  · cases accepted
    refine ⟨effect.wellFormed, ledger.distinct, ?_, ?_, ?_, ?_, ledger.routed, ledger.delivered,
      ledger.dropped, ledger.evictions, ledger.timeouts, ?_⟩
    · intro other member
      have away := ledger.away other member
      have same := elsewhere member
      exact ⟨(congrArg Standing.registered same).trans away.1,
        (congrArg (fun standing => standing.connection.isSome) same).trans away.2⟩
    · exact congrArg Nat.succ ledger.opened
    · have active := ledger.active
      change (hub.metrics before).active + 1 =
        ((hub.registered ++ [id]).length : Nat) + leaving.length
      rw [longer]
      omega
    · have closed := ledger.closed
      change hub.totals.connections + 1 = (hub.registered ++ [id]).length + leaving.length +
        (hub.metrics before).closed.values.sum
      rw [longer]
      omega
    · intro other present
      exact (ledger.series other present).imp_left stays

theorem countRouted (ledger : Ledger before hub leaving) (report : RouteReport) :
    Ledger before (hub.countRouted report) leaving where
  wellFormed := ⟨ledger.wellFormed.named, ledger.wellFormed.known, ledger.wellFormed.distinct,
    ledger.wellFormed.room⟩
  distinct := ledger.distinct
  away := ledger.away
  opened := ledger.opened
  active := ledger.active
  closed := ledger.closed
  routed := congrArg (· + 1) ledger.routed
  delivered := congrArg (· + report.delivered) ledger.delivered
  dropped := congrArg (· + report.dropped) ledger.dropped
  evictions := ledger.evictions
  timeouts := ledger.timeouts
  series := ledger.series

theorem route (ledger : Ledger before hub leaving) (event : Event) :
    Ledger before (hub.route event).1 leaving :=
  (ledger.quiet (quiet_deliveries ledger.wellFormed event)).countRouted _

theorem detach (ledger : Ledger before hub leaving) (detaches : hub.detach? id = some next) :
    Ledger before next (leaving ++ [id]) := by
  have isRegistered := isRegistered_of_detach? detaches
  obtain ⟨registered, isNext⟩ := detach?_eq_some_iff.1 detaches
  have shorter : next.count + 1 = hub.count := by
    rw [isNext]
    exact length_filter_ne ledger.wellFormed.distinct (isRegistered_iff.1 registered)
  subst isNext
  have longer : (leaving ++ [id]).length = leaving.length + 1 := List.length_append
  have apart {other : ConnectionId} (member : other ∈ leaving) : other ≠ id := by
    rintro rfl
    have away := (ledger.away other member).1
    rw [registered] at away
    cases away
  constructor
  case wellFormed =>
    obtain ⟨detached, isDetached, effect⟩ := effect_detach ledger.wellFormed registered
    cases detaches.symm.trans isDetached
    exact effect.wellFormed
  case distinct =>
    rw [List.nodup_append]
    refine ⟨ledger.distinct, by simp, ?_⟩
    intro other member last isLast
    rw [List.mem_singleton.1 isLast]
    exact apart member
  case away =>
    intro other member
    rw [isRegistered]
    rcases List.mem_append.1 member with member | isId
    · have away := ledger.away other member
      exact ⟨by rw [away.1, Bool.false_and], away.2⟩
    · rw [List.mem_singleton.1 isId]
      exact ⟨by simp, ledger.wellFormed.known id registered⟩
  case series =>
    intro other present
    rw [isRegistered, List.mem_append]
    by_cases same : other = id
    · exact Or.inr (Or.inr (List.mem_singleton.2 same))
    · refine (ledger.series other present).imp (fun stays => ?_) Or.inl
      rw [stays, Bool.true_and]
      exact decide_eq_true same
  case active =>
    refine ledger.active.trans ?_
    rw [longer]
    omega
  case closed =>
    refine ledger.closed.trans ?_
    rw [longer]
    change _ = _ + (hub.metrics before).closed.values.sum
    omega
  case opened => exact ledger.opened
  case routed => exact ledger.routed
  case delivered => exact ledger.delivered
  case dropped => exact ledger.dropped
  case evictions => exact ledger.evictions
  case timeouts => exact ledger.timeouts

theorem beginClose (ledger : Ledger before hub leaving)
    (begun : hub.beginClose? id reason = some next) : Ledger before next (leaving ++ [id]) := by
  obtain ⟨detached, detaches, rfl⟩ := Option.map_eq_some_iff.1 begun
  have left := ledger.detach detaches
  have drained := left.quiet (quiet_beginDraining left.wellFormed id reason)
  exact drained.subscriptions _ _

theorem finishClose (ledger : Ledger before hub leaving) (member : id ∈ leaving)
    (asked : CloseReason) :
    Ledger before (hub.finishClose id asked) (leaving.filter fun other => other ≠ id) := by
  have effect := effect_finishClose ledger.wellFormed id asked
  obtain ⟨reason, connections, registered, totals, metrics⟩ := hub.finishClose_books before id asked
  have isRegistered (other : ConnectionId) :
      (hub.finishClose id asked).isRegistered other = hub.isRegistered other := by
    rw [Hub.isRegistered, registered, Hub.isRegistered]
  have count : (hub.finishClose id asked).count = hub.count := congrArg List.length registered
  have shorter := length_filter_ne ledger.distinct member
  constructor
  case wellFormed => exact effect.wellFormed
  case distinct => exact ledger.distinct.filter _
  case away =>
    intro other stays
    have away := ledger.away other (List.mem_filter.1 stays).1
    rw [isRegistered, get?, connections, Table.get?_update]
    refine ⟨away.1, ?_⟩
    split
    · exact Option.isSome_map.trans away.2
    · exact away.2
  case opened => simpa only [metrics, totals, Metrics.apply] using ledger.opened
  case active =>
    have active := ledger.active
    simp only [metrics, Metrics.apply, count]
    omega
  case closed =>
    have closed := ledger.closed
    simp only [metrics, totals, Metrics.apply, count, Metrics.sum_count]
    omega
  case routed => simpa only [metrics, totals, Metrics.apply] using ledger.routed
  case delivered => simpa only [metrics, totals, Metrics.apply] using ledger.delivered
  case dropped => simpa only [metrics, totals, Metrics.apply] using ledger.dropped
  case evictions => simp only [metrics, totals, Metrics.apply, ledger.evictions]
  case timeouts =>
    simp only [metrics, totals, Metrics.apply, Metrics.get?_count, ledger.timeouts]
  case series =>
    intro other present
    rw [metrics, Metrics.apply, Table.get?_erase] at present
    split at present
    · cases present
    · rename_i apart
      rw [isRegistered]
      refine (ledger.series other present).imp_right fun waits => ?_
      exact List.mem_filter.2 ⟨waits, by simpa using apart⟩

theorem close (ledger : Ledger before hub leaving) (id : ConnectionId) (reason : CloseReason) :
    Ledger before (hub.close id reason).1 leaving := by
  rw [Hub.close]
  split
  · rename_i closing begun
    have begins := ledger.beginClose begun
    have ends := begins.finishClose (List.mem_append_right leaving List.mem_cons_self) reason
    have absent : id ∉ leaving := fun member =>
      (List.nodup_append.1 begins.distinct).2.2 id member id List.mem_cons_self rfl
    have same : ((leaving ++ [id]).filter fun other => other ≠ id) = leaving := by
      rw [List.filter_append, List.filter_eq_self.2]
      · simp
      · intro other member
        have apart : other ≠ id := fun isId => absent (isId ▸ member)
        simpa using apart
    rw [same] at ends
    exact ends
  · exact ledger

theorem closeAll (ledger : Ledger before hub leaving) (reason : CloseReason)
    (ids : List ConnectionId) : Ledger before (hub.closeAll reason ids) leaving := by
  induction ids generalizing hub with
  | nil => exact ledger
  | cons id rest ih => exact ih (ledger.close id reason)

theorem apply (ledger : Ledger before hub leaving) {operation : Operation}
    (fair : operation.isFair = true) : Ledger before (hub.apply operation) leaving := by
  have wellFormed := ledger.wellFormed
  cases operation with
  | register id identity version =>
      rw [Hub.apply, admission]
      split
      · exact ledger
      · rename_i unknown
        have fresh : hub.get? id = none := by simpa using unknown
        cases accepted : hub.register id identity version with
        | error cause => exact ledger
        | ok next => exact ledger.register fresh accepted
  | subscribe id events clusters => exact ledger.subscribe id events clusters
  | unsubscribe id events => exact ledger.subscriptions _ hub.totals.subscriptions
  | route event => exact ledger.route event
  | dequeue _ | clear _ | tend _ _ | beginDraining _ _ | survey _ _ =>
      exact ledger.quiet (quiet_apply wellFormed rfl)
  | close id reason => exact ledger.close id reason
  | tick now stamp =>
      exact (ledger.quiet (quiet_survey wellFormed now stamp)).closeAll .heartbeatTimeout _
  | shutdown => exact ledger.closeAll .serverShutdown _
  | report entry =>
      cases entry with
      | crossed id crossing => exact ledger.quiet (quiet_apply wellFormed rfl)
      | _ => cases fair
  | markClosed _ | beginClose _ _ | finishClose _ _ => cases fair

end Ledger

end Hub

end EventHub
