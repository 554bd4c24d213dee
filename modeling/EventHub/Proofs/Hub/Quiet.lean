import EventHub.Proofs.Hub.Operation

/-!
What leaves the hub's books alone. Connections change, and samples, misses and crossings may be
reported; who is registered, what is subscribed to and what is counted stay as they are.
-/

namespace EventHub

/-- A report that tells of nobody's coming or going and of no event. -/
def Report.isQuiet (hub : Hub) : Report → Bool
  | .crossed _ _ | .missed _ _ => true
  | .sampled sample => hub.isRegistered sample.id
  | .opened _ | .closed _ _ | .routed _ => false

namespace Hub

structure Quiet (hub next : Hub) : Prop where
  wellFormed : next.WellFormed
  known : ∀ id, (next.get? id).isSome = (hub.get? id).isSome
  registered : next.registered = hub.registered
  index : next.index = hub.index
  totals : next.totals = hub.totals
  reports : ∃ entries, next.reports = entries ++ hub.reports ∧
    ∀ entry ∈ entries, entry.isQuiet hub = true

namespace Quiet

variable {hub middle next : Hub}

theorem isRegistered (quiet : Quiet hub next) (id : ConnectionId) :
    next.isRegistered id = hub.isRegistered id := by
  rw [Hub.isRegistered, quiet.registered, Hub.isRegistered]

theorem isQuiet (quiet : Quiet hub next) (entry : Report) :
    entry.isQuiet next = entry.isQuiet hub := by
  cases entry with
  | sampled sample => exact quiet.isRegistered sample.id
  | _ => rfl

theorem of_reports (wellFormed : next.WellFormed)
    (known : ∀ id, (next.get? id).isSome = (hub.get? id).isSome)
    (registered : next.registered = hub.registered) (index : next.index = hub.index)
    (totals : next.totals = hub.totals) (reports : next.reports = hub.reports) :
    Quiet hub next :=
  ⟨wellFormed, known, registered, index, totals, [], reports, fun _ absent => nomatch absent⟩

theorem refl (wellFormed : hub.WellFormed) : Quiet hub hub :=
  .of_reports wellFormed (fun _ => rfl) rfl rfl rfl rfl

theorem trans (first : Quiet hub middle) (second : Quiet middle next) : Quiet hub next where
  wellFormed := second.wellFormed
  known := fun id => (second.known id).trans (first.known id)
  registered := second.registered.trans first.registered
  index := second.index.trans first.index
  totals := second.totals.trans first.totals
  reports := by
    obtain ⟨earlier, isEarlier, quietEarlier⟩ := first.reports
    obtain ⟨later, isLater, quietLater⟩ := second.reports
    refine ⟨later ++ earlier, by rw [isLater, isEarlier, List.append_assoc], ?_⟩
    intro entry member
    rcases List.mem_append.1 member with member | member
    · exact (first.isQuiet entry).symm.trans (quietLater entry member)
    · exact quietEarlier entry member

theorem report (quiet : Quiet hub next) {entry : Report} (isQuiet : entry.isQuiet next = true) :
    Quiet hub (next.report entry) := by
  refine quiet.trans ⟨(effect_report quiet.wellFormed entry).wellFormed, fun _ => rfl, rfl, rfl,
    rfl, [entry], rfl, fun other member => ?_⟩
  rw [List.mem_singleton.1 member]
  exact isQuiet

theorem reportCrossing (quiet : Quiet hub next) (id : ConnectionId) (crossing : Option Crossing) :
    Quiet hub (next.reportCrossing id crossing) := by
  cases crossing with
  | none => exact quiet
  | some crossing => exact quiet.report rfl

end Quiet

section Quietly

variable {hub : Hub} (wellFormed : hub.WellFormed)
include wellFormed

theorem quiet_modify (id : ConnectionId) (change : Connection → Connection)
    (keepsId : ∀ connection, (change connection).id = connection.id) :
    Quiet hub (hub.modify id change) := by
  refine .of_reports (effect_modify wellFormed id change keepsId).wellFormed ?_ rfl rfl rfl rfl
  intro other
  rw [modify, get?, Table.get?_update, get?]
  split
  · exact Option.isSome_map
  · rfl

theorem quiet_put (connection : Connection) : Quiet hub (hub.put connection) := by
  have same : hub.put connection =
      hub.modify connection.id fun stored => { connection with id := stored.id } := by
    rw [put, modify, modify]
    congr 1
    refine Table.update_congr hub.connections fun stored found => ?_
    rw [wellFormed.named _ stored found]
  rw [same]
  exact quiet_modify wellFormed _ _ fun _ => rfl

theorem quiet_beginDraining (id : ConnectionId) (reason : CloseReason) :
    Quiet hub (hub.beginDraining id reason).1 := by
  rw [beginDraining]
  split
  · exact quiet_put wellFormed _
  · exact .refl wellFormed

theorem quiet_deliver (payload : Payload) (report : RouteReport) (id : ConnectionId) :
    Quiet hub (deliver payload (hub, report) id).1 := by
  simp only [deliver]
  split
  · exact (quiet_put wellFormed _).reportCrossing id _
  · exact .refl wellFormed

/-- Routing, up to the count of what became of the event. -/
theorem quiet_deliveries (event : Event) :
    Quiet hub ((hub.index.matching event.eventType event.cluster).foldl (deliver event.toPayload)
      (hub, { matched := (hub.index.matching event.eventType event.cluster).length })).1 :=
  List.foldlRecOn (motive := fun (state : Hub × RouteReport) => Quiet hub state.1) _ _
    (.refl wellFormed) fun state quiet id _ =>
      quiet.trans (quiet_deliver quiet.wellFormed event.toPayload state.2 id)

theorem quiet_visit (now : Instant) (stamp : UInt64) {connection : Connection}
    (registered : hub.isRegistered connection.id = true) :
    Quiet hub (hub.visit now stamp connection).1 := by
  have noted (ticked : Connection) :
      Quiet hub ((hub.put ticked).reportMiss connection ticked) := by
    rw [reportMiss]
    split
    · exact (quiet_put wellFormed ticked).report rfl
    · exact quiet_put wellFormed ticked
  have sampled {next : Hub} (quiet : Quiet hub next) :
      Quiet hub (next.reportSample connection.id) := by
    rw [reportSample]
    split
    · rename_i stored found
      split
      · refine quiet.report ?_
        rw [Report.isQuiet, Connection.sample, quiet.wellFormed.named _ stored found,
          quiet.isRegistered]
        exact registered
      · exact quiet
    · exact quiet
  simp only [visit]
  cases connection.heartbeatTick hub.config.heartbeat now with
  | mk ticked action =>
      cases action with
      | wait => exact sampled (noted ticked)
      | evict => exact sampled (noted ticked)
      | sendPing =>
          have wellFormedNoted := (noted ticked).wellFormed
          refine sampled ((noted ticked).trans ?_)
          simp only [ping]
          split
          · exact quiet_put wellFormedNoted _
          · exact quiet_put wellFormedNoted _

theorem quiet_survey (now : Instant) (stamp : UInt64) : Quiet hub (hub.survey now stamp).1 := by
  rw [survey_eq]
  refine List.foldlRecOn (motive := fun (state : Hub × MonitorReport) => Quiet hub state.1)
    _ _ (.refl wellFormed) ?_
  intro state quiet id member
  simp only [surveyStep]
  split
  · rename_i connection found
    split
    · refine quiet.trans (quiet_visit quiet.wellFormed now stamp ?_)
      rw [quiet.wellFormed.named id connection found, quiet.isRegistered]
      exact isRegistered_iff.2 member
    · exact quiet
  · exact quiet

end Quietly

/-- Of all the books, only the samples and the counts of misses and of crossings change. -/
def Operation.isQuiet : Operation → Bool
  | .dequeue _ | .clear _ | .tend _ _ | .beginDraining _ _ | .survey _ _
  | .report (.crossed _ _) => true
  | _ => false

theorem quiet_apply {hub : Hub} (wellFormed : hub.WellFormed) {operation : Operation}
    (isQuiet : operation.isQuiet = true) : Quiet hub (hub.apply operation) := by
  cases operation with
  | dequeue id => exact quiet_modify wellFormed id _ fun _ => rfl
  | clear id => exact quiet_modify wellFormed id _ fun _ => rfl
  | tend id upkeep => exact quiet_modify wellFormed id _ upkeep.id_apply
  | beginDraining id reason => exact quiet_beginDraining wellFormed id reason
  | survey now stamp => exact quiet_survey wellFormed now stamp
  | report entry =>
      cases entry with
      | crossed id crossing => exact (Quiet.refl wellFormed).report rfl
      | _ => cases isQuiet
  | _ => cases isQuiet

end Hub

end EventHub
