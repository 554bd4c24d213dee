import EventHub.Proofs.Live.Batch

/-!
The shutdown of a hub at work. It is one batch of closes that takes in everybody who is registered,
and as nobody comes in while they are awaited, nothing is left in the hub afterwards.
-/

namespace EventHub

/-- An index that refers to nobody is empty, as emptied tables and sets are thrown away. -/
theorem SubscriptionIndex.Refines.eq_empty {index : SubscriptionIndex} {map : SubscriptionMap}
    (refines : index.Refines map) (nobody : ∀ id, index.references id = false) : index = ∅ := by
  have unlisted (id : ConnectionId) : (index.byConnection.get? id).isSome = false ∧
      ∀ subscribers ∈ index.byType.values, subscribers.contains id = false := by
    simpa [references, Table.contains] using nobody id
  have byConnection : index.byConnection = ∅ := by
    refine Table.isEmpty_iff.1 (List.isEmpty_iff.2 (List.eq_nil_iff_forall_not_mem.2 ?_))
    rintro ⟨id, types⟩ stored
    have listed := (unlisted id).1
    rw [Table.get?_eq_some_iff.2 stored] at listed
    cases listed
  have byType : index.byType = ∅ := by
    refine Table.isEmpty_iff.1 (List.isEmpty_iff.2 (List.eq_nil_iff_forall_not_mem.2 ?_))
    rintro ⟨eventType, subscribers⟩ stored
    have inhabited := refines.noEmptyTable eventType subscribers (Table.get?_eq_some_iff.2 stored)
    obtain ⟨⟨id, filter⟩, member⟩ := List.isEmpty_eq_false_iff_exists_mem.1 inhabited
    have absent := (unlisted id).2 subscribers (List.mem_map_of_mem stored)
    rw [Table.contains, Table.get?_eq_some_iff.2 member] at absent
    cases absent
  obtain ⟨_, _⟩ := index
  cases byType
  cases byConnection
  rfl

namespace LiveHub

variable {live : LiveHub} {log : List CloseCall}

/-- What a shutdown leaves behind, and how long it takes. -/
structure ShutsDown (live : LiveHub) (outcome : LiveHub × Nat) : Prop where
  count : outcome.2 = live.hub.count
  registered : outcome.1.hub.registered = []
  index : outcome.1.hub.index = ∅
  closed : ∀ id connection, live.hub.find? id = some connection → ∃ reason last,
    (connection.isOpen = true → reason = .serverShutdown) ∧
      (connection.isOpen = false → connection.closeReason = some reason) ∧
      outcome.1.hub.get? id = some last ∧ last.state = .closed ∧
      last.closeReason = some reason ∧ outcome.1.hub.reasonsFor id = [reason]
  since : live.clock ≤ outcome.1.clock
  within : outcome.1.clock ≤ live.clock + live.hub.config.teardownGrace
  atOnce : (∀ id connection, live.hub.find? id = some connection → connection.settled = true) →
    outcome.1.clock = live.clock

theorem shutdown_fst (live : LiveHub) :
    live.shutdown.1 = live.closeBatch .serverShutdown live.hub.registered :=
  rfl

/-- Everybody was registered before, and has left. -/
theorem unregistered_shutdown (agrees : ∀ id, live.Agrees id log) (id : ConnectionId) :
    live.shutdown.1.hub.isRegistered id = false := by
  have staffed := (agrees id).staffed
  rw [shutdown_fst]
  by_cases member : id ∈ live.hub.registered
  · exact unregistered_closeBatch agrees staffed.wellFormed.distinct .serverShutdown member
  · refine Bool.eq_false_iff.2 fun stays => member (Hub.isRegistered_iff.1 ?_)
    exact (drifts_closeBatch live .serverShutdown live.hub.registered).registered staffed stays

theorem index_shutdown (sound : live.hub.Sound) (mapped : live.hub.Mapped)
    (agrees : ∀ id, live.Agrees id log) : live.shutdown.1.hub.index = ∅ := by
  obtain ⟨actions, reached⟩ := reaches_shutdown live
  have soundLast := (reaches_shutdown live).sound sound
  have mappedLast := mapped_run mapped sound.wellFormed actions
  rw [← reached] at mappedLast
  obtain ⟨map, refines⟩ := mappedLast
  exact refines.eq_empty fun id => soundLast.not_references (unregistered_shutdown agrees id)

/-- Whatever a hub has been through, a shutdown closes everybody who is registered, each of them
once, and takes at most the time that one close may take. -/
theorem shutdown_closes_all (config : HubConfig) {actions : List Action}
    (whole : ∀ action ∈ actions, action.isWhole = true) :
    ((idle config).run actions).ShutsDown ((idle config).run actions).shutdown := by
  have agrees (id : ConnectionId) := (agrees_idle config id).run whole
  have sound := sound_run (sound_idle config) actions
  have mapped := mapped_run (Hub.mapped_ofConfig config) (sound_idle config).wellFormed actions
  generalize (idle config).run actions = live at agrees sound mapped ⊢
  have seesThrough := seesThrough_closeBatch agrees sound.wellFormed.distinct
    (fun _ member => Hub.isRegistered_iff.2 member) .serverShutdown
  rw [← shutdown_fst] at seesThrough
  exact {
    count := rfl
    registered := List.eq_nil_iff_forall_not_mem.2 fun id member => by
      cases (unregistered_shutdown agrees id).symm.trans (Hub.isRegistered_iff.2 member)
    index := index_shutdown sound mapped agrees
    closed := fun id connection found => by
      obtain ⟨registered, found⟩ := Hub.find?_eq_some_iff.1 found
      exact seesThrough.closed id (Hub.isRegistered_iff.1 registered) connection found
    since := seesThrough.since
    within := seesThrough.within
    atOnce := fun settled => seesThrough.atOnce fun id member => by
      have registered := Hub.isRegistered_iff.2 member
      obtain ⟨connection, found⟩ := Option.isSome_iff_exists.1
        (sound.wellFormed.known id registered)
      rw [found]
      exact settled id connection (Hub.find?_eq_some_iff.2 ⟨registered, found⟩) }

/-- One client is new, one has been asked to close, and one has a session that does not end. -/
def threeClients : List Action :=
  [.hub (.register "a" { subject := "s" } 1), .hub (.register "b" { subject := "s" } 1),
    .hub (.register "c" { subject := "s" } 1), .hub (.subscribe "a" ["alert"] []),
    .hub (.beginDraining "b" .clientInitiated), .startSession "c" none (some 0)]

theorem shutdown_closes_three_clients :
    ((idle { teardownGrace := 5 }).run threeClients).hub.registered = ["a", "b", "c"] ∧
      ((idle { teardownGrace := 5 }).run threeClients).ShutsDown
        ((idle { teardownGrace := 5 }).run threeClients).shutdown := by
  have whole : ∀ action ∈ threeClients, action.isWhole = true := by decide
  exact ⟨rfl, shutdown_closes_all { teardownGrace := 5 } whole⟩

end LiveHub

end EventHub
