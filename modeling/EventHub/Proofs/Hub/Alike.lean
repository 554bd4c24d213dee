import EventHub.Proofs.Hub.Interleaving
import EventHub.Proofs.Hub.Quiet
import EventHub.Proofs.Hub.Soundness

/-!
Hubs that cannot be told apart. A registry has no order, and neither have the metrics of one
moment; the subscription index of a hub is a view of one map after whatever the hub has been asked
to do, so connections that hold the same in two hubs get the same answers from both.
-/

namespace EventHub

/-- The order of the registry and of the reports aside, the hubs are the same. -/
structure Hub.Alike (left right : Hub) : Prop where
  config : left.config = right.config
  connections : ∀ id, left.get? id = right.get? id
  registered : left.registered.Perm right.registered
  index : left.index.Alike right.index
  totals : left.totals = right.totals
  reports : left.reports.Perm right.reports

theorem SubscriptionIndex.Refines.unsubscribeMany {index : SubscriptionIndex}
    {map : SubscriptionMap} (refines : index.Refines map) (id : ConnectionId)
    (eventTypes : List EventType) :
    ∃ later, (index.unsubscribeMany id eventTypes).1.Refines later := by
  induction eventTypes generalizing index map with
  | nil => exact ⟨map, refines⟩
  | cons eventType rest ih => exact ih (refines.erase id eventType)

namespace Hub

/-- Both sides of the subscription index show one map. -/
def Mapped (hub : Hub) : Prop :=
  ∃ map, hub.index.Refines map

theorem mapped_ofConfig (config : HubConfig) : (ofConfig config).Mapped :=
  ⟨∅, SubscriptionIndex.refines_empty⟩

namespace Mapped

variable {hub next : Hub}

theorem of_index_eq (mapped : hub.Mapped) (same : next.index = hub.index) : next.Mapped := by
  rw [Mapped, same]
  exact mapped

theorem subscribe (mapped : hub.Mapped) (id : ConnectionId) (events : List EventType)
    (clusters : List String) : (hub.subscribe id events clusters).1.Mapped := by
  rcases hub.subscribe_cases id events clusters with refused | ⟨filter, index, added, stored, next⟩
  · exact mapped.of_index_eq (congrArg Hub.index refused)
  · obtain ⟨map, refines⟩ := mapped
    have applied : hub.index.apply hub.config.maxSubscriptions (.subscribeMany id events filter) =
        index := by rw [SubscriptionIndex.apply, stored]
    obtain ⟨later, refinesLater⟩ :=
      refines.apply hub.config.maxSubscriptions (.subscribeMany id events filter)
    rw [applied] at refinesLater
    rw [next]
    exact ⟨later, refinesLater⟩

theorem beginClose (mapped : hub.Mapped) (id : ConnectionId) (reason : CloseReason) :
    ((hub.beginClose? id reason).getD hub).Mapped := by
  cases begun : hub.beginClose? id reason with
  | none => exact mapped
  | some next =>
      obtain ⟨detached, detaches, rfl⟩ := Option.map_eq_some_iff.1 begun
      obtain ⟨-, rfl⟩ := detach?_eq_some_iff.1 detaches
      obtain ⟨map, refines⟩ := mapped
      have drained (hub : Hub) : (hub.beginDraining id reason).1.index = hub.index := by
        rw [beginDraining]
        split <;> rfl
      rw [Option.getD_some, Mapped, dropSubscriptions, drained]
      exact ⟨_, refines.unsubscribeAll id⟩

theorem finishClose (mapped : hub.Mapped) (id : ConnectionId) (asked : CloseReason) :
    (hub.finishClose id asked).Mapped := by
  refine mapped.of_index_eq ?_
  simp only [Hub.finishClose, countEviction]
  split <;> rfl

theorem close (mapped : hub.Mapped) (id : ConnectionId) (reason : CloseReason) :
    (hub.close id reason).1.Mapped := by
  have begun := mapped.beginClose id reason
  rw [Hub.close]
  cases begins : hub.beginClose? id reason with
  | none => exact mapped
  | some closing =>
      rw [begins, Option.getD_some] at begun
      exact begun.finishClose id reason

theorem closeAll (mapped : hub.Mapped) (reason : CloseReason) (ids : List ConnectionId) :
    (hub.closeAll reason ids).Mapped :=
  List.foldlRecOn (motive := Mapped) _ _ mapped fun _ mapped id _ => mapped.close id reason

theorem apply (mapped : hub.Mapped) (wellFormed : hub.WellFormed) (operation : Operation) :
    (hub.apply operation).Mapped := by
  have quiet {operation : Operation} (isQuiet : operation.isQuiet = true) :
      (hub.apply operation).Mapped :=
    mapped.of_index_eq (quiet_apply wellFormed isQuiet).index
  cases operation with
  | register id identity version =>
      refine mapped.of_index_eq ?_
      rw [Hub.apply, admission]
      split
      · rfl
      · rw [register]
        split <;> rfl
  | subscribe id events clusters => exact mapped.subscribe id events clusters
  | unsubscribe id events =>
      obtain ⟨map, refines⟩ := mapped
      exact refines.unsubscribeMany id events
  | route event => exact mapped.of_index_eq (quiet_deliveries wellFormed event).index
  | beginClose id reason => exact mapped.beginClose id reason
  | finishClose id asked => exact mapped.finishClose id asked
  | close id reason => exact mapped.close id reason
  | tick now stamp =>
      have surveyed := mapped.of_index_eq (quiet_survey wellFormed now stamp).index
      exact surveyed.closeAll .heartbeatTimeout _
  | shutdown => exact mapped.closeAll .serverShutdown _
  | dequeue | clear | tend | beginDraining | survey => exact quiet rfl
  | markClosed | report => exact mapped.of_index_eq rfl

theorem run (mapped : hub.Mapped) (wellFormed : hub.WellFormed) (operations : List Operation) :
    (hub.run operations).Mapped := by
  induction operations generalizing hub with
  | nil => exact mapped
  | cons operation rest ih =>
      exact ih (mapped.apply wellFormed operation) (effect_apply wellFormed operation).wellFormed

/-- Where everybody holds the same, every question about subscriptions has the same answer. -/
theorem alike (mapped : hub.Mapped) (mappedNext : next.Mapped)
    (same : ∀ id, hub.index.holding id = next.index.holding id) :
    hub.index.Alike next.index := by
  obtain ⟨map, refines⟩ := mapped
  obtain ⟨other, refinesNext⟩ := mappedNext
  exact refines.alike (refines.of_holding refinesNext same)

end Mapped

end Hub

end EventHub
