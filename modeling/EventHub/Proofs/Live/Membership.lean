import EventHub.Node.Health
import EventHub.Proofs.Live.Action

/-!
Who is in the hub. The registry, the subscription index and the lifecycles agree in every state the
hub can reach, the caps hold, and a connection that has left stays away.
-/

namespace EventHub

namespace Standing

variable (standing : Standing)

/-- Only a registration, under a fresh id, puts a connection into the registry. -/
theorem unregistered_apply (config : HubConfig) (id : ConnectionId) {operation : Hub.Operation}
    (noRegistration : ∀ other identity version, operation ≠ .register other identity version)
    (unregistered : standing.registered = false) :
    (standing.apply config id operation).registered = false := by
  have visited (now : Instant) (stamp : UInt64) :
      standing.visit config.heartbeat now stamp = standing := by
    simp [visit, unregistered]
  cases operation with
  | register other identity version => exact absurd rfl (noRegistration other identity version)
  | subscribe other events clusters =>
      simp only [apply, subscribe]
      split
      · split
        · exact unregistered
        · exact unregistered
      · exact unregistered
  | unsubscribe other events => exact unregistered
  | route event => simp [apply, offer, unregistered]
  | dequeue other => exact unregistered
  | clear other => exact unregistered
  | tend other upkeep => exact unregistered
  | beginDraining other reason => exact unregistered
  | markClosed other => exact unregistered
  | beginClose other reason => simp [apply, leave, unregistered]
  | finishClose other asked => exact unregistered
  | close other reason => simp [apply, close, unregistered]
  | survey now stamp => simp only [apply, visited, unregistered]
  | tick now stamp => simp [apply, tick, visited, isCondemned, unregistered]
  | shutdown => simp [apply, close, unregistered]
  | report entry => exact unregistered

theorem dwindles_of_unregistered (config : HubConfig) (id : ConnectionId)
    (operation : Hub.Operation) (unregistered : standing.registered = false) :
    standing.Dwindles (standing.apply config id operation) := by
  cases quiet : operation.isRoute with
  | false => exact standing.dwindles_apply config id quiet
  | true =>
      cases operation with
      | route event =>
          have untouched : standing.apply config id (.route event) = standing := by
            simp [apply, offer, unregistered]
          rw [untouched]
          exact .refl standing
      | _ => cases quiet

end Standing

namespace Hub

variable {hub : Hub} {id : ConnectionId}

/-- The connection was in the hub once and has left it. -/
def Departed (hub : Hub) (id : ConnectionId) : Prop :=
  (hub.standing id).connection.isSome = true ∧ (hub.standing id).registered = false

theorem Departed.apply (wellFormed : hub.WellFormed) (departed : hub.Departed id)
    (operation : Operation) :
    (hub.apply operation).Departed id ∧
      (hub.standing id).Dwindles ((hub.apply operation).standing id) := by
  obtain ⟨known, unregistered⟩ := departed
  simp only [Departed, (effect_apply wellFormed operation).standing]
  split
  · rename_i concerned
    have noRegistration (other : ConnectionId) (identity : Identity) (version : UInt32) :
        operation ≠ .register other identity version := by
      rintro rfl
      have fresh : (hub.standing id).connection = none := get?_eq_none_of_concerns concerned
      simp [fresh] at known
    exact ⟨⟨(hub.standing id).isSome_apply hub.config id operation known,
      (hub.standing id).unregistered_apply hub.config id noRegistration unregistered⟩,
      (hub.standing id).dwindles_of_unregistered hub.config id operation unregistered⟩
  · exact ⟨⟨known, unregistered⟩, .refl _⟩

theorem Departed.run (wellFormed : hub.WellFormed) (departed : hub.Departed id)
    (operations : List Operation) :
    (hub.run operations).Departed id ∧
      (hub.standing id).Dwindles ((hub.run operations).standing id) := by
  induction operations generalizing hub with
  | nil => exact ⟨departed, .refl _⟩
  | cons operation rest ih =>
      obtain ⟨stays, dwindles⟩ := departed.apply wellFormed operation
      obtain ⟨last, later⟩ := ih (effect_apply wellFormed operation).wellFormed stays
      exact ⟨last, dwindles.trans later⟩

/-- The registry, the index and the lifecycles in one state of the hub. -/
structure Membership (hub : Hub) : Prop where
  count_le : hub.count ≤ hub.config.maxConnections
  accepts_iff : ∀ id identity version,
    (∃ next, hub.register id identity version = .ok next) ↔
      hub.count < hub.config.maxConnections
  refused : ∀ id identity version,
    (¬∃ next, hub.register id identity version = .ok next) →
      hub.apply (.register id identity version) = hub
  isHubUp_iff : ∀ node : Node, node.live.hub = hub → node.ready = true →
    ∀ id identity version,
      node.isHubUp = true ↔ ∃ next, hub.register id identity version = .ok next
  referenced : ∀ id, hub.index.references id = true → hub.isRegistered id = true
  opened : ∀ id, hub.isOpen id = true → hub.isRegistered id = true
  bounded : ∀ id, hub.isRegistered id = true →
    hub.index.countFor id ≤ hub.config.maxSubscriptions ∧
      (hub.index.subscriptionsOf id).length ≤ hub.config.maxSubscriptions

theorem register_eq_ok_iff (identity : Identity) (version : UInt32) :
    (∃ next, hub.register id identity version = .ok next) ↔
      hub.count < hub.config.maxConnections := by
  rw [register]
  constructor
  · rintro ⟨next, accepted⟩
    split at accepted
    · cases accepted
    · rename_i room
      exact Nat.not_le.1 room
  · intro room
    rw [if_neg (Nat.not_le.2 room)]
    exact ⟨_, rfl⟩

theorem apply_register_of_refused {identity : Identity} {version : UInt32}
    (refused : ¬∃ next, hub.register id identity version = .ok next) :
    hub.apply (.register id identity version) = hub := by
  simp only [apply, admission]
  cases result : hub.register id identity version with
  | error cause => split <;> rfl
  | ok next => exact absurd ⟨next, result⟩ refused

theorem Sound.not_references (sound : hub.Sound) (unregistered : hub.isRegistered id = false) :
    hub.index.references id = false := by
  have empty : hub.index.holding id = .none := (sound.standing id).holding_eq_none unregistered
  rw [Bool.eq_false_iff]
  intro referenced
  have occurs := SubscriptionIndex.references_iff.1 referenced
  rw [empty] at occurs
  exact Holding.not_occurs_none occurs

theorem Sound.membership (sound : hub.Sound) : hub.Membership where
  count_le := sound.wellFormed.room
  accepts_iff := fun _ => register_eq_ok_iff
  refused := fun _ _ _ => apply_register_of_refused
  isHubUp_iff := by
    rintro node rfl ready id identity version
    rw [register_eq_ok_iff, Node.isHubUp, ready]
    simp
  referenced := by
    intro id referenced
    cases registered : hub.isRegistered id with
    | true => rfl
    | false => exact absurd referenced (by simp [sound.not_references registered])
  opened := fun id => (sound.standing id).registered_of_isOpen
  bounded := by
    intro id _
    have bounded : hub.index.countFor id ≤ hub.config.maxSubscriptions :=
      (sound.standing id).bounded
    exact ⟨bounded, Nat.le_trans (hub.index.length_subscriptionsOf_le id) bounded⟩

/-- A connection that has left is in no part of the hub, nothing has been added to its buffer since,
and who still has it in hand cannot add anything either. -/
structure StaysAway (id : ConnectionId) (hub later : Hub) : Prop where
  unregistered : later.isRegistered id = false
  unreferenced : later.index.references id = false
  closed : later.isOpen id = false
  buffer : ∃ left final, hub.get? id = some left ∧ later.get? id = some final ∧
    final.buffer.queue <:+ left.buffer.queue ∧ ∀ payload, final.enqueue? payload = none

theorem Departed.staysAway (sound : hub.Sound) (departed : hub.Departed id)
    (operations : List Operation) : StaysAway id hub (hub.run operations) := by
  obtain ⟨⟨known, unregistered⟩, dwindles⟩ := departed.run sound.wellFormed operations
  have later := sound.run operations
  obtain ⟨left, found⟩ : ∃ left, hub.get? id = some left :=
    Option.isSome_iff_exists.1 departed.1
  obtain ⟨final, foundFinal⟩ : ∃ final, (hub.run operations).get? id = some final :=
    Option.isSome_iff_exists.1 known
  have closed : (hub.run operations).isOpen id = false := by
    rw [Bool.eq_false_iff]
    intro opened
    have registered := (later.standing id).registered_of_isOpen opened
    cases unregistered.symm.trans registered
  refine ⟨unregistered, later.not_references unregistered, closed, left, final, found, foundFinal,
    ?_, ?_⟩
  · have shrinks := dwindles.queue
    simpa [Standing.queue, standing, found, foundFinal] using shrinks
  · intro payload
    have closing : final.isOpen = false := by simpa [isOpen, foundFinal] using closed
    simp [Connection.enqueue?, closing]

end Hub

namespace LiveHub

/-- Every state of a hub at work keeps its membership in order, and who leaves never comes back. -/
theorem membership_run (config : HubConfig) (actions : List Action) :
    ((idle config).run actions).hub.Membership ∧
      ((idle config).run actions).hub.config = config ∧
      ∀ id middle later,
        ((idle config).run actions).hub.isRegistered id = true →
        ((idle config).run (actions ++ middle)).hub.isRegistered id = false →
        Hub.StaysAway id ((idle config).run (actions ++ middle)).hub
          ((idle config).run (actions ++ middle ++ later)).hub := by
  have sound := sound_run (sound_idle config) actions
  refine ⟨sound.membership, config_run_idle config actions, ?_⟩
  intro id middle later registered unregistered
  obtain ⟨between, reached⟩ := hub_run sound.wellFormed middle
  rw [run_append] at unregistered ⊢
  rw [run_append, run_append]
  have soundMiddle := sound_run sound middle
  obtain ⟨after, reachedLater⟩ := hub_run soundMiddle.wellFormed later
  rw [reachedLater]
  refine Hub.Departed.staysAway soundMiddle ⟨?_, unregistered⟩ after
  rw [reached]
  exact Hub.known_run sound.wellFormed between ((sound.standing id).known registered)

/-- A client that was closed, its id taken up again in every way. -/
theorem membership_run_closed :
    Hub.StaysAway "c"
      ((idle {}).run [.hub (.register "c" { subject := "s" } 1),
        .hub (.subscribe "c" ["alert"] []), .hub (.close "c" .clientInitiated)]).hub
      ((idle {}).run [.hub (.register "c" { subject := "s" } 1),
        .hub (.subscribe "c" ["alert"] []), .hub (.close "c" .clientInitiated),
        .hub (.register "c" { subject := "s" } 1), .hub (.subscribe "c" ["alert"] []),
        .hub (.route ⟨"alert", "west", .null, 0⟩)]).hub :=
  (membership_run {} [.hub (.register "c" { subject := "s" } 1),
      .hub (.subscribe "c" ["alert"] [])]).2.2 "c" [.hub (.close "c" .clientInitiated)]
    [.hub (.register "c" { subject := "s" } 1), .hub (.subscribe "c" ["alert"] []),
      .hub (.route ⟨"alert", "west", .null, 0⟩)] (by decide) (by decide)

end LiveHub

end EventHub
