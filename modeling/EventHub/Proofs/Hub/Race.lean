import EventHub.Proofs.Hub.Soundness

/-!
Calls of the hub that run side by side. A call is cut where another may come in between: a
subscribe around the change of the index, a close around each of its three steps and its wait, an
unsubscribe after each type. A race is a hub with the calls in flight; whose turn it is next, a
schedule says.
-/

namespace EventHub

/-- How far a subscribe has come. -/
inductive SubscribePhase where
  | asking
  | admitted (granted : NameSet)
  | stored (granted : NameSet) (added : Nat)
  | confirmed (granted : NameSet) (added : Nat)
  | withdrawn
  | answered (answer : Except HubError Subscribed)

/-- How far a close has come; in the end it says whether the connection was registered. -/
inductive ClosePhase where
  | asking
  | detached
  | draining
  | cleared
  | answered (closed : Bool)
  deriving DecidableEq

/-- The section that is next in a subscribe. The hub is read and changed there alone. -/
def SubscribePhase.advance (hub : Hub) (id : ConnectionId) (events : List EventType)
    (clusters : List String) : SubscribePhase → Hub × SubscribePhase
  | asking =>
      match hub.admitSubscribe id clusters with
      | .ok granted => (hub, admitted granted)
      | .error cause => (hub, answered (.error cause))
  | admitted granted =>
      match hub.storeSubscriptions id events granted with
      | .ok (next, added) => (next, stored granted added)
      | .error cause => (hub, answered (.error cause))
  | stored granted added => (hub, if hub.isOpen id then confirmed granted added else withdrawn)
  | confirmed granted added =>
      (hub.countSubscriptions added, answered (.ok { events, clusters := granted }))
  | withdrawn => (hub.dropSubscriptions id, answered (.error (.connectionNotFound id)))
  | answered answer => (hub, answered answer)

def ClosePhase.advance (hub : Hub) (id : ConnectionId) (reason : CloseReason) :
    ClosePhase → Hub × ClosePhase
  | asking =>
      match hub.detach? id with
      | some next => (next, detached)
      | none => (hub, answered false)
  | detached => ((hub.beginDraining id reason).1, draining)
  | draining => (hub.dropSubscriptions id, cleared)
  | cleared => (hub.finishClose id reason, answered true)
  | answered closed => (hub, answered closed)

namespace Race

inductive Request where
  | subscribe (id : ConnectionId) (events : List EventType) (clusters : List String)
  | unsubscribe (id : ConnectionId) (events : List EventType)
  | close (id : ConnectionId) (reason : CloseReason)
  deriving DecidableEq

/-- A call in flight; an unsubscribe keeps the types that are left and counts what it removed. -/
inductive Call where
  | subscribe (id : ConnectionId) (events : List EventType) (clusters : List String)
      (phase : SubscribePhase)
  | unsubscribe (id : ConnectionId) (left : List EventType) (removed : Nat)
  | close (id : ConnectionId) (reason : CloseReason) (phase : ClosePhase)

def Request.call : Request → Call
  | subscribe id events clusters => .subscribe id events clusters .asking
  | unsubscribe id events => .unsubscribe id events 0
  | close id reason => .close id reason .asking

namespace Call

def target : Call → ConnectionId
  | subscribe id _ _ _ | unsubscribe id _ _ | close id _ _ => id

def isOver : Call → Bool
  | subscribe _ _ _ (.answered _) | unsubscribe _ [] _ | close _ _ (.answered _) => true
  | _ => false

def advance (hub : Hub) : Call → Hub × Call
  | subscribe id events clusters phase =>
      let (next, later) := phase.advance hub id events clusters
      (next, subscribe id events clusters later)
  | unsubscribe id [] removed => (hub, unsubscribe id [] removed)
  | unsubscribe id (eventType :: left) removed =>
      let (index, present) := hub.index.unsubscribe id eventType
      ({ hub with index }, unsubscribe id left (removed + if present then 1 else 0))
  | close id reason phase =>
      let (next, later) := phase.advance hub id reason
      (next, close id reason later)

end Call

end Race

structure Race where
  hub : Hub
  calls : List Race.Call

namespace Race

def start (hub : Hub) (requests : List Request) : Race where
  hub := hub
  calls := requests.map Request.call

/-- The next section of the call in this place. -/
def step (race : Race) (place : Nat) : Race :=
  match race.calls[place]? with
  | some call =>
      { hub := (call.advance race.hub).1
        calls := race.calls.set place (call.advance race.hub).2 }
  | none => race

def run (race : Race) (schedule : List Nat) : Race :=
  schedule.foldl step race

@[simp] theorem run_nil (race : Race) : race.run [] = race := rfl

@[simp] theorem run_cons (race : Race) (place : Nat) (rest : List Nat) :
    race.run (place :: rest) = (race.step place).run rest := rfl

theorem run_append (race : Race) (earlier later : List Nat) :
    race.run (earlier ++ later) = (race.run earlier).run later :=
  List.foldl_append

/-! A call that nothing comes in between is the hub's own. -/

theorem subscribe_alone (hub : Hub) (id : ConnectionId) (events : List EventType)
    (clusters : List String) :
    (start hub [.subscribe id events clusters]).run [0, 0, 0, 0] =
      { hub := (hub.subscribe id events clusters).1
        calls := [.subscribe id events clusters
          (.answered (hub.subscribe id events clusters).2)] } := by
  simp only [start, List.map_cons, List.map_nil, Request.call, run_cons, run_nil, step,
    List.getElem?_cons_zero, List.set_cons_zero, Call.advance, Hub.subscribe]
  cases admitted : hub.admitSubscribe id clusters with
  | error cause => simp only [SubscribePhase.advance, admitted]
  | ok granted =>
      cases kept : hub.storeSubscriptions id events granted with
      | error cause => simp only [SubscribePhase.advance, admitted, kept]
      | ok outcome =>
          cases opened : outcome.1.isOpen id with
          | true =>
              simp only [SubscribePhase.advance, admitted, kept, Hub.confirmSubscribe, opened,
                if_true]
          | false =>
              simp only [SubscribePhase.advance, admitted, kept, Hub.confirmSubscribe, opened,
                Bool.false_eq_true, if_false]

theorem close_alone (hub : Hub) (id : ConnectionId) (reason : CloseReason) :
    (start hub [.close id reason]).run [0, 0, 0, 0] =
      { hub := (hub.close id reason).1
        calls := [.close id reason (.answered (hub.close id reason).2)] } := by
  simp only [start, List.map_cons, List.map_nil, Request.call, run_cons, run_nil, step,
    List.getElem?_cons_zero, List.set_cons_zero, Call.advance, Hub.close, Hub.beginClose?]
  cases detaches : hub.detach? id with
  | none => simp only [ClosePhase.advance, detaches, Option.map_none]
  | some detached => simp only [ClosePhase.advance, detaches, Option.map_some]

theorem unsubscribe_alone (hub : Hub) (id : ConnectionId) (events : List EventType) :
    (start hub [.unsubscribe id events]).run (List.replicate events.length 0) =
      { hub := (hub.unsubscribe id events).1
        calls := [.unsubscribe id [] (hub.unsubscribe id events).2] } := by
  have counting (left : List EventType) : ∀ (hub : Hub) (removed : Nat),
      run { hub, calls := [.unsubscribe id left removed] } (List.replicate left.length 0) =
        { hub := (hub.unsubscribe id left).1
          calls := [.unsubscribe id [] (removed + (hub.unsubscribe id left).2)] } := by
    induction left with
    | nil => exact fun hub removed => rfl
    | cons eventType rest ih =>
        intro hub removed
        refine (ih _ _).trans ?_
        simp only [Call.advance, Hub.unsubscribe, SubscriptionIndex.unsubscribeMany,
          SubscriptionIndex.unsubscribe, Nat.add_assoc]
        rw [Nat.add_comm (if (hub.index.filter? id eventType).isSome = true then 1 else 0)]
        rfl
  have alone := counting events hub 0
  rw [Nat.zero_add] at alone
  exact alone

/-- What a section does where the connection of its call stands. -/
inductive Section : Standing → Call → Standing → Call → Prop where
  | allow {standing id events clusters granted} (opened : standing.isOpen = true) :
      Section standing (.subscribe id events clusters .asking)
        standing (.subscribe id events clusters (.admitted granted))
  | refuse {standing id events clusters cause}
      (named : standing.isOpen = false → cause = .connectionNotFound id) :
      Section standing (.subscribe id events clusters .asking)
        standing (.subscribe id events clusters (.answered (.error cause)))
  | store {standing id events clusters granted added} :
      Section standing (.subscribe id events clusters (.admitted granted))
        { standing with holding := standing.holding.insertAll ⟨granted⟩ events }
        (.subscribe id events clusters (.stored granted added))
  | overflow {standing id events clusters granted cause} :
      Section standing (.subscribe id events clusters (.admitted granted))
        standing (.subscribe id events clusters (.answered (.error cause)))
  | confirm {standing id events clusters granted added} (opened : standing.isOpen = true) :
      Section standing (.subscribe id events clusters (.stored granted added))
        standing (.subscribe id events clusters (.confirmed granted added))
  | retract {standing id events clusters granted added} (closing : standing.isOpen = false) :
      Section standing (.subscribe id events clusters (.stored granted added))
        standing (.subscribe id events clusters .withdrawn)
  | count {standing id events clusters granted added} :
      Section standing (.subscribe id events clusters (.confirmed granted added))
        standing (.subscribe id events clusters (.answered (.ok { events, clusters := granted })))
  | withdraw {standing id events clusters} :
      Section standing (.subscribe id events clusters .withdrawn)
        { standing with holding := standing.holding.clear }
        (.subscribe id events clusters (.answered (.error (.connectionNotFound id))))
  | forget {standing id eventType left removed later} :
      Section standing (.unsubscribe id (eventType :: left) removed)
        { standing with holding := standing.holding.erase eventType }
        (.unsubscribe id left later)
  | detach {standing id reason} :
      Section standing (.close id reason .asking)
        { standing with registered := false } (.close id reason .detached)
  | miss {standing id reason} (unregistered : standing.registered = false) :
      Section standing (.close id reason .asking)
        standing (.close id reason (.answered false))
  | drain {standing id reason} :
      Section standing (.close id reason .detached)
        (standing.beginDraining reason) (.close id reason .draining)
  | clear {standing id reason} :
      Section standing (.close id reason .draining)
        { standing with holding := standing.holding.clear } (.close id reason .cleared)
  | finish {standing id reason} :
      Section standing (.close id reason .cleared)
        (standing.amend Connection.markClosed) (.close id reason (.answered true))
  | rest {standing call} (ended : call.isOver = true) : Section standing call standing call

theorem admitSubscribe_of_not_isOpen {hub : Hub} {id : ConnectionId} {clusters : List String}
    (closing : (hub.standing id).isOpen = false) :
    hub.admitSubscribe id clusters = .error (.connectionNotFound id) := by
  rw [Hub.admitSubscribe]
  cases found : hub.get? id with
  | none => rfl
  | some connection =>
      have shut : connection.isOpen = false := by
        simpa [Standing.isOpen, Hub.standing, found] using closing
      simp [shut]

/-- A section changes no standing but its own connection's. -/
theorem effect_advance {hub : Hub} (wellFormed : hub.WellFormed) (call : Call) :
    ∃ turn, Hub.Effect hub (call.advance hub).1 (Standing.onlyAt call.target turn) ∧
      Section (hub.standing call.target) call (turn (hub.standing call.target))
        (call.advance hub).2 := by
  have still (key : ConnectionId) : Hub.Effect hub hub (Standing.onlyAt key id) :=
    .refl_onlyAt wellFormed rfl
  cases call with
  | subscribe key events clusters phase =>
      simp only [Call.target]
      cases phase with
      | asking =>
          refine ⟨id, ?_⟩
          simp only [Call.advance, SubscribePhase.advance]
          cases admitted : hub.admitSubscribe key clusters with
          | ok granted =>
              exact ⟨still key, .allow (Standing.isOpen_of_grant
                (Hub.admitSubscribe_eq_ok_iff.1 admitted))⟩
          | error cause =>
              refine ⟨still key, .refuse fun closing => ?_⟩
              rw [admitSubscribe_of_not_isOpen closing] at admitted
              exact (Except.error.inj admitted).symm
      | admitted granted =>
          simp only [Call.advance, SubscribePhase.advance, Hub.storeSubscriptions,
            SubscriptionIndex.subscribeMany_eq]
          by_cases fits : (hub.index.holding key).fits hub.config.maxSubscriptions events = true
          · rw [if_pos fits]
            exact ⟨_, Hub.effect_index wellFormed fun other =>
              SubscriptionIndex.holding_insertAll key ⟨granted⟩ events hub.index other, .store⟩
          · rw [if_neg fits]
            exact ⟨id, still key, .overflow⟩
      | stored granted added =>
          refine ⟨id, still key, ?_⟩
          simp only [Call.advance, SubscribePhase.advance]
          cases opened : hub.isOpen key with
          | true => exact .confirm opened
          | false => exact .retract opened
      | confirmed granted added =>
          exact ⟨id, (still key).bookkeeping rfl rfl rfl rfl, .count⟩
      | withdrawn => exact ⟨_, Hub.effect_dropSubscriptions wellFormed key, .withdraw⟩
      | answered answer => exact ⟨id, still key, .rest rfl⟩
  | unsubscribe key left removed =>
      simp only [Call.target]
      cases left with
      | nil => exact ⟨id, still key, .rest rfl⟩
      | cons eventType rest =>
          exact ⟨_, Hub.effect_unsubscribe wellFormed key [eventType], .forget⟩
  | close key reason phase =>
      simp only [Call.target]
      cases phase with
      | asking =>
          simp only [Call.advance, ClosePhase.advance]
          by_cases registered : hub.isRegistered key = true
          · obtain ⟨detached, detaches, effect⟩ := Hub.effect_detach wellFormed registered
            rw [detaches]
            exact ⟨_, effect, .detach⟩
          · rw [Hub.detach?, if_neg registered]
            exact ⟨id, still key, .miss (Bool.eq_false_iff.2 registered)⟩
      | detached => exact ⟨_, Hub.effect_beginDraining wellFormed key reason, .drain⟩
      | draining => exact ⟨_, Hub.effect_dropSubscriptions wellFormed key, .clear⟩
      | cleared => exact ⟨_, Hub.effect_finishClose wellFormed key reason, .finish⟩
      | answered closed => exact ⟨id, still key, .rest rfl⟩

end Race

end EventHub
