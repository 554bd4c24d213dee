import EventHub.Proofs.Hub.Race

/-!
What a race leaves behind. A close takes the connection out of the registry, shuts it and only
then removes its entries; a subscribe looks again after it has put its entries in. So entries of a
connection that has left are always some call's to remove: a close's that has not come to it yet,
or a subscribe's that has not looked again.
-/

namespace EventHub

/-- The entries are in the index, or were. -/
def SubscribePhase.hasStored : SubscribePhase → Bool
  | stored _ _ | confirmed _ _ | withdrawn | answered (.ok _) => true
  | asking | admitted _ | answered (.error _) => false

theorem Standing.isOpen_amend {change : Connection → Connection}
    (shuts : ∀ connection, (change connection).isOpen = false) (standing : Standing) :
    (standing.amend change).isOpen = false := by
  cases found : standing.connection with
  | none => simp [isOpen, amend, found]
  | some connection => simp [isOpen, amend, found, shuts]

namespace Race

namespace Call

/-- A close that has yet to shut the connection. -/
def isDetached : Call → Bool
  | close _ _ .detached => true
  | _ => false

/-- Entries that are left may still be this call's to remove. -/
def sweeps : Call → Bool
  | close _ _ .detached | close _ _ .draining => true
  | subscribe _ _ _ (.stored _ _) | subscribe _ _ _ .withdrawn => true
  | _ => false

def hasDetached : Call → Bool
  | close _ _ .detached | close _ _ .draining | close _ _ .cleared
  | close _ _ (.answered true) => true
  | _ => false

def hasDrained : Call → Bool
  | close _ _ .draining | close _ _ .cleared | close _ _ (.answered true) => true
  | _ => false

/-- A subscribe that a second check has let pass. -/
def isConfirmed : Call → Bool
  | subscribe _ _ _ (.confirmed _ _) | subscribe _ _ _ (.answered (.ok _)) => true
  | _ => false

/-- What a subscribe asks for. -/
def asks : Call → Option (ConnectionId × List EventType × List String)
  | subscribe id events clusters _ => some (id, events, clusters)
  | _ => none

theorem sweeps_of_isOver {call : Call} (ended : call.isOver = true) : call.sweeps = false := by
  cases call with
  | subscribe id events clusters phase => cases phase <;> first | rfl | cases ended
  | unsubscribe id left removed => rfl
  | close id reason phase => cases phase <;> first | rfl | cases ended

theorem sweeps_of_isDetached {call : Call} (detached : call.isDetached = true) :
    call.sweeps = true := by
  cases call with
  | subscribe _ _ _ _ => cases detached
  | unsubscribe _ _ _ => cases detached
  | close _ _ phase =>
      cases phase with
      | detached => rfl
      | _ => cases detached

theorem eq_subscribe_of_asks {call : Call} {id : ConnectionId} {events : List EventType}
    {clusters : List String} (asks : call.asks = some (id, events, clusters)) :
    ∃ phase, call = .subscribe id events clusters phase := by
  cases call with
  | subscribe _ _ _ phase =>
      cases asks
      exact ⟨phase, rfl⟩
  | unsubscribe _ _ _ => cases asks
  | close _ _ _ => cases asks

end Call

namespace Section

variable {standing later : Standing} {call next : Call}

theorem target (advances : Section standing call later next) : next.target = call.target := by
  cases advances <;> rfl

theorem asks (advances : Section standing call later next) : next.asks = call.asks := by
  cases advances <;> rfl

theorem consistent (advances : Section standing call later next)
    (consistent : standing.holding.Consistent) : later.holding.Consistent := by
  cases advances with
  | store => exact consistent.insertAll _ _
  | withdraw | clear =>
      rw [consistent.clear_eq_none]
      exact Holding.consistent_none
  | forget => exact consistent.erase _
  | _ => exact consistent

/-- No section takes a connection in or opens it again. -/
theorem unregistered (advances : Section standing call later next)
    (unregistered : standing.registered = false) : later.registered = false := by
  cases advances with
  | detach => rfl
  | _ => exact unregistered

theorem shut (advances : Section standing call later next) (closing : standing.isOpen = false) :
    later.isOpen = false := by
  cases advances with
  | drain => exact Standing.isOpen_amend (fun connection => connection.isOpen_beginDraining _) _
  | finish => exact Standing.isOpen_amend (fun _ => rfl) _
  | _ => exact closing

/-- Entries that are left after a section were there before or are the call's to remove. -/
theorem leftover (advances : Section standing call later next)
    (consistent : standing.holding.Consistent) (left : later.holding ≠ .none) :
    next.sweeps = true ∨ standing.holding ≠ .none := by
  cases advances with
  | store => exact Or.inl rfl
  | withdraw | clear => exact absurd consistent.clear_eq_none left
  | forget =>
      refine Or.inr fun nothing => left ?_
      rw [nothing]
      exact Holding.eraseAll_none [_]
  | _ => exact Or.inr left

/-- The call gives its duty up only where the connection is open, or has nothing left. -/
theorem relieved (advances : Section standing call later next) (duty : call.sweeps = true) :
    next.sweeps = true ∨ call.isDetached = false ∧ standing.isOpen = true ∨
      later.holding = standing.holding.clear := by
  cases advances with
  | confirm opened => exact Or.inr (Or.inl ⟨rfl, opened⟩)
  | retract => exact Or.inl rfl
  | withdraw | clear => exact Or.inr (Or.inr rfl)
  | drain => exact Or.inl rfl
  | rest ended =>
      rw [Call.sweeps_of_isOver ended] at duty
      cases duty
  | _ => cases duty

theorem departed (advances : Section standing call later next)
    (departed : call.hasDetached = true → standing.registered = false)
    (left : next.hasDetached = true) : later.registered = false := by
  cases advances with
  | detach => rfl
  | drain | clear | finish => exact departed rfl
  | rest => exact departed left
  | _ => cases left

theorem drained (advances : Section standing call later next)
    (drained : call.hasDrained = true → standing.isOpen = false)
    (left : next.hasDrained = true) : later.isOpen = false := by
  cases advances with
  | drain => exact Standing.isOpen_amend (fun connection => connection.isOpen_beginDraining _) _
  | clear => exact drained rfl
  | finish => exact Standing.isOpen_amend (fun _ => rfl) _
  | rest => exact drained left
  | _ => cases left

theorem registered (advances : Section standing call later next)
    (registered : standing.registered = true) :
    later.registered = true ∨ next.isDetached = true := by
  cases advances with
  | detach => exact Or.inr rfl
  | _ => exact Or.inl registered

theorem shut_of_isDetached (advances : Section standing call later next)
    (detached : call.isDetached = true) : later.isOpen = false := by
  cases advances with
  | drain => exact Standing.isOpen_amend (fun connection => connection.isOpen_beginDraining _) _
  | rest ended =>
      cases call with
      | subscribe _ _ _ _ => cases detached
      | unsubscribe _ _ _ => cases detached
      | close _ _ phase =>
          cases phase with
          | detached => cases ended
          | _ => cases detached
  | _ => cases detached

/-- `others` stands for what the other calls are still to do. -/
theorem opened {others : Prop} (advances : Section standing call later next)
    (before : standing.isOpen = true →
      standing.registered = true ∨ call.isDetached = true ∨ others)
    (isOpen : later.isOpen = true) :
    later.registered = true ∨ next.isDetached = true ∨ others := by
  have wasOpen : standing.isOpen = true := by
    by_cases closing : standing.isOpen = false
    · exact absurd (advances.shut closing) (by simp [isOpen])
    · simpa using closing
  rcases before wasOpen with registered | detached | rest
  · exact (advances.registered registered).imp_right Or.inl
  · rw [advances.shut_of_isDetached detached] at isOpen
    cases isOpen
  · exact Or.inr (Or.inr rest)

theorem swept {others detaching : Prop} (advances : Section standing call later next)
    (consistent : standing.holding.Consistent) (sweeping : detaching → others)
    (before : standing.holding ≠ .none →
      standing.registered = true ∨ call.sweeps = true ∨ others)
    (opened : standing.isOpen = true →
      standing.registered = true ∨ call.isDetached = true ∨ detaching)
    (occupied : later.holding ≠ .none) :
    later.registered = true ∨ next.sweeps = true ∨ others := by
  have ofRegistered (registered : standing.registered = true) :
      later.registered = true ∨ next.sweeps = true ∨ others :=
    (advances.registered registered).imp_right fun detached =>
      Or.inl (Call.sweeps_of_isDetached detached)
  rcases advances.leftover consistent occupied with duty | wasOccupied
  · exact Or.inr (Or.inl duty)
  rcases before wasOccupied with registered | duty | rest
  · exact ofRegistered registered
  · rcases advances.relieved duty with duty | ⟨notDetached, wasOpen⟩ | emptied
    · exact Or.inr (Or.inl duty)
    · rcases opened wasOpen with registered | detached | rest
      · exact ofRegistered registered
      · rw [notDetached] at detached
        cases detached
      · exact Or.inr (Or.inr (sweeping rest))
    · rw [consistent.clear_eq_none] at emptied
      exact absurd emptied occupied
  · exact Or.inr (Or.inr rest)

end Section

variable {race : Race}

/-- Between the sections of a race: who is still to remove what is left, and what a close has
already seen to. -/
structure Guarded (race : Race) : Prop where
  wellFormed : race.hub.WellFormed
  consistent : ∀ id, (race.hub.standing id).holding.Consistent
  swept : ∀ id, (race.hub.standing id).holding ≠ .none →
    (race.hub.standing id).registered = true ∨
      ∃ call ∈ race.calls, call.target = id ∧ call.sweeps = true
  opened : ∀ id, (race.hub.standing id).isOpen = true →
    (race.hub.standing id).registered = true ∨
      ∃ call ∈ race.calls, call.target = id ∧ call.isDetached = true
  departed : ∀ call ∈ race.calls, call.hasDetached = true →
    (race.hub.standing call.target).registered = false
  drained : ∀ call ∈ race.calls, call.hasDrained = true →
    (race.hub.standing call.target).isOpen = false

theorem guarded_start {hub : Hub} (sound : hub.Sound) (requests : List Request) :
    (start hub requests).Guarded where
  wellFormed := sound.wellFormed
  consistent := fun id => (sound.standing id).consistent
  swept := by
    intro id occupied
    cases registered : (hub.standing id).registered with
    | true => exact Or.inl registered
    | false => exact absurd ((sound.standing id).holding_eq_none registered) occupied
  opened := fun id isOpen => Or.inl ((sound.standing id).registered_of_isOpen isOpen)
  departed := by
    intro call member detached
    obtain ⟨request, -, rfl⟩ := List.mem_map.1 member
    cases request <;> cases detached
  drained := by
    intro call member drained
    obtain ⟨request, -, rfl⟩ := List.mem_map.1 member
    cases request <;> cases drained

theorem exists_mem_set {α : Type} {items : List α} {place : Nat} {item : α}
    (found : items[place]? = some item) (later : α) (property : α → Prop) :
    (∃ other ∈ items.set place later, property other) ↔ property later ∨
      ∃ index other, index ≠ place ∧ items[index]? = some other ∧ property other := by
  have bound : place < items.length := (List.getElem?_eq_some_iff.1 found).1
  simp only [List.mem_iff_getElem?, List.getElem?_set]
  constructor
  · rintro ⟨other, ⟨index, stored⟩, holds⟩
    split at stored
    · cases stored
      exact Or.inl holds
    · rename_i apart
      exact Or.inr ⟨index, other, Ne.symm apart, stored, holds⟩
  · rintro (holds | ⟨index, other, apart, stored, holds⟩)
    · exact ⟨later, ⟨place, by simp [bound]⟩, holds⟩
    · exact ⟨other, ⟨index, by simp [apart.symm, stored]⟩, holds⟩

theorem exists_mem_iff {α : Type} {items : List α} {place : Nat} {item : α}
    (found : items[place]? = some item) (property : α → Prop) :
    (∃ other ∈ items, property other) ↔ property item ∨
      ∃ index other, index ≠ place ∧ items[index]? = some other ∧ property other := by
  have unchanged : items.set place item = items := by
    apply List.ext_getElem?
    intro index
    rw [List.getElem?_set]
    split
    · rename_i same
      subst same
      rw [found, if_pos (List.getElem?_eq_some_iff.1 found).1]
    · rfl
  rw [← exists_mem_set found item property, unchanged]

theorem step_cases (wellFormed : race.hub.WellFormed) (place : Nat) :
    (race.calls[place]? = none ∧ race.step place = race) ∨
      ∃ call next turn, race.calls[place]? = some call ∧
        (race.step place).calls = race.calls.set place next ∧
        Hub.Effect race.hub (race.step place).hub (Standing.onlyAt call.target turn) ∧
        Section (race.hub.standing call.target) call
          ((race.step place).hub.standing call.target) next := by
  simp only [step]
  cases found : race.calls[place]? with
  | none => exact Or.inl ⟨rfl, rfl⟩
  | some call =>
      obtain ⟨turn, effect, advances⟩ := effect_advance wellFormed call
      refine Or.inr ⟨call, _, turn, rfl, rfl, effect, ?_⟩
      simp only [effect.standing, Standing.onlyAt_self]
      exact advances

theorem Guarded.step (guarded : race.Guarded) (place : Nat) : (race.step place).Guarded := by
  rcases step_cases guarded.wellFormed place with
    ⟨-, idle⟩ | ⟨call, next, turn, found, calls, effect, advances⟩
  · rw [idle]
    exact guarded
  have here := List.mem_of_getElem? found
  have elsewhere (id : ConnectionId) (other : id ≠ call.target) :
      (race.step place).hub.standing id = race.hub.standing id :=
    (effect.standing id).trans (if_neg other)
  -- A call for another connection is in the list as before.
  have stays (id : ConnectionId) (other : id ≠ call.target) (property : Call → Prop) :
      (∃ candidate ∈ race.calls, candidate.target = id ∧ property candidate) →
        ∃ candidate ∈ (race.step place).calls, candidate.target = id ∧ property candidate := by
    rw [calls, exists_mem_set found, exists_mem_iff found]
    rintro (⟨isTarget, -⟩ | kept)
    · exact absurd isTarget.symm other
    · exact Or.inr kept
  refine ⟨effect.wellFormed, fun id => ?_, fun id occupied => ?_, fun id isOpen => ?_, ?_, ?_⟩
  · by_cases own : id = call.target
    · subst own
      exact advances.consistent (guarded.consistent _)
    · rw [elsewhere id own]
      exact guarded.consistent id
  · by_cases own : id = call.target
    · subst own
      have swept := guarded.swept call.target
      have opened := guarded.opened call.target
      rw [exists_mem_iff found] at swept opened
      rw [calls, exists_mem_set found, advances.target]
      simp only [true_and] at swept opened ⊢
      refine advances.swept (guarded.consistent _) ?_ swept opened occupied
      rintro ⟨index, other, apart, stored, isTarget, detached⟩
      exact ⟨index, other, apart, stored, isTarget, Call.sweeps_of_isDetached detached⟩
    · rw [elsewhere id own] at occupied ⊢
      exact (guarded.swept id occupied).imp_right (stays id own _)
  · by_cases own : id = call.target
    · subst own
      have opened := guarded.opened call.target
      rw [exists_mem_iff found] at opened
      rw [calls, exists_mem_set found, advances.target]
      simp only [true_and] at opened ⊢
      exact advances.opened opened isOpen
    · rw [elsewhere id own] at isOpen ⊢
      exact (guarded.opened id isOpen).imp_right (stays id own _)
  · intro other member detached
    rw [calls] at member
    rcases List.mem_or_eq_of_mem_set member with member | rfl
    · have unregistered := guarded.departed other member detached
      by_cases own : other.target = call.target
      · rw [own] at unregistered ⊢
        exact advances.unregistered unregistered
      · rwa [elsewhere _ own]
    · rw [advances.target]
      exact advances.departed (guarded.departed call here) detached
  · intro other member drained
    rw [calls] at member
    rcases List.mem_or_eq_of_mem_set member with member | rfl
    · have closing := guarded.drained other member drained
      by_cases own : other.target = call.target
      · rw [own] at closing ⊢
        exact advances.shut closing
      · rwa [elsewhere _ own]
    · rw [advances.target]
      exact advances.drained (guarded.drained call here) drained

theorem Guarded.run (guarded : race.Guarded) (schedule : List Nat) :
    (race.run schedule).Guarded := by
  induction schedule generalizing race with
  | nil => exact guarded
  | cons place rest ih => exact ih (guarded.step place)

theorem wellFormed_step (wellFormed : race.hub.WellFormed) (turn : Nat) :
    (race.step turn).hub.WellFormed := by
  rcases step_cases wellFormed turn with ⟨-, idle⟩ | ⟨_, _, _, -, -, effect, -⟩
  · rw [idle]
    exact wellFormed
  · exact effect.wellFormed

theorem standing_step (wellFormed : race.hub.WellFormed) (turn : Nat) (id : ConnectionId) :
    (race.step turn).hub.standing id = race.hub.standing id ∨
      ∃ call next, call ∈ race.calls ∧ call.target = id ∧
        Section (race.hub.standing id) call ((race.step turn).hub.standing id) next := by
  rcases step_cases wellFormed turn with ⟨-, idle⟩ | ⟨call, next, _, here, -, effect, advances⟩
  · exact Or.inl (by rw [idle])
  · by_cases own : id = call.target
    · subst own
      exact Or.inr ⟨call, next, List.mem_of_getElem? here, rfl, advances⟩
    · exact Or.inl ((effect.standing id).trans (if_neg own))

theorem call_step_self (wellFormed : race.hub.WellFormed) {place : Nat} {call : Call}
    (found : race.calls[place]? = some call) :
    ∃ next, (race.step place).calls[place]? = some next ∧
      Section (race.hub.standing call.target) call
        ((race.step place).hub.standing call.target) next := by
  rcases step_cases wellFormed place with ⟨absent, -⟩ | ⟨moved, next, _, here, calls, -, advances⟩
  · rw [found] at absent
    cases absent
  · obtain rfl := Option.some.inj (here.symm.trans found)
    refine ⟨next, ?_, advances⟩
    rw [calls, List.getElem?_set_self', found]
    rfl

theorem call_step_of_ne {turn place : Nat} (apart : turn ≠ place) :
    (race.step turn).calls[place]? = race.calls[place]? := by
  rw [step]
  split
  · exact List.getElem?_set_ne apart
  · rfl

theorem length_run (race : Race) (schedule : List Nat) :
    (race.run schedule).calls.length = race.calls.length := by
  induction schedule generalizing race with
  | nil => rfl
  | cons turn rest ih =>
      rw [run_cons, ih, step]
      split
      · exact List.length_set
      · rfl

/-- A call keeps its place. What its own sections and those of the others keep, holds of it from
then on. -/
theorem call_run (property : Standing → Call → Prop)
    (own : ∀ {standing later call next}, Section standing call later next →
      property standing call → property later next)
    (others : ∀ {standing later other next call}, Section standing other later next →
      property standing call → property later call)
    (wellFormed : race.hub.WellFormed) {place : Nat} {call : Call} {id : ConnectionId}
    (found : race.calls[place]? = some call) (target : call.target = id)
    (holds : property (race.hub.standing id) call) (schedule : List Nat) :
    ∃ last, (race.run schedule).calls[place]? = some last ∧
      property ((race.run schedule).hub.standing id) last := by
  induction schedule generalizing race call with
  | nil => exact ⟨call, found, holds⟩
  | cons turn rest ih =>
      have later := wellFormed_step wellFormed turn
      by_cases isOwn : turn = place
      · subst isOwn
        obtain ⟨next, stored, advances⟩ := call_step_self wellFormed found
        have sameTarget := advances.target.trans target
        rw [target] at advances
        exact ih later stored sameTarget (own advances holds)
      · refine ih later ((call_step_of_ne isOwn).trans found) target ?_
        rcases standing_step wellFormed turn id with same | ⟨other, next, -, -, advances⟩
        · rw [same]
          exact holds
        · exact others advances holds

theorem call_run_of_shut {property : Call → Prop}
    (keeps : ∀ {standing later call next}, Section standing call later next →
      standing.isOpen = false → property call → property next)
    (wellFormed : race.hub.WellFormed) {place : Nat} {call : Call} {id : ConnectionId}
    (closing : (race.hub.standing id).isOpen = false)
    (found : race.calls[place]? = some call) (target : call.target = id) (holds : property call)
    (schedule : List Nat) :
    ∃ last, (race.run schedule).calls[place]? = some last ∧ property last := by
  obtain ⟨last, isLast, -, kept⟩ := call_run
    (fun standing call => standing.isOpen = false ∧ property call)
    (fun advances ⟨closing, holds⟩ => ⟨advances.shut closing, keeps advances closing holds⟩)
    (fun advances ⟨closing, holds⟩ => ⟨advances.shut closing, holds⟩)
    wellFormed found target ⟨closing, holds⟩ schedule
  exact ⟨last, isLast, kept⟩

theorem asks_run (wellFormed : race.hub.WellFormed) {place : Nat} {last : Call}
    {schedule : List Nat} (isLast : (race.run schedule).calls[place]? = some last) :
    ∃ call, race.calls[place]? = some call ∧ call.asks = last.asks := by
  have bound := (List.getElem?_eq_some_iff.1 isLast).1
  rw [length_run] at bound
  have found := List.getElem?_eq_getElem bound
  obtain ⟨same, isSame, asks⟩ := call_run (fun _ call => call.asks = race.calls[place].asks)
    (fun advances asks => advances.asks.trans asks) (fun _ asks => asks) wellFormed found rfl rfl
    schedule
  rw [isLast] at isSame
  cases isSame
  exact ⟨_, found, asks.symm⟩

theorem isConfirmed_of_shut {standing later : Standing} {call next : Call}
    (advances : Section standing call later next) (closing : standing.isOpen = false)
    (pending : call.isConfirmed = false) : next.isConfirmed = false := by
  cases advances with
  | confirm opened =>
      rw [closing] at opened
      cases opened
  | count => cases pending
  | rest => exact pending
  | _ => rfl

/-- What becomes of `race` under a schedule. -/
structure Settles (race : Race) (schedule : List Nat) : Prop where
  nothing_left : ∀ id reason, (∀ call ∈ (race.run schedule).calls, call.target = id →
      call.isOver = true) →
    .close id reason (.answered true) ∈ (race.run schedule).calls →
    (race.run schedule).hub.index.references id = false
  stored_before : ∀ id reason earlier turn later, schedule = earlier ++ turn :: later →
    (race.run earlier).calls[turn]? = some (.close id reason .draining) →
    ∀ (place : Nat) events clusters subscribed, (race.run schedule).calls[place]? =
      some (.subscribe id events clusters (.answered (.ok subscribed))) →
    ∃ phase, (race.run earlier).calls[place]? = some (.subscribe id events clusters phase) ∧
      phase.hasStored = true
  refused_after : ∀ id reason earlier turn later, schedule = earlier ++ turn :: later →
    (race.run earlier).calls[turn]? = some (.close id reason .detached) →
    ∀ (place : Nat) events clusters answer, (race.run (earlier ++ [turn])).calls[place]? =
      some (.subscribe id events clusters .asking) →
    (race.run schedule).calls[place]? =
      some (.subscribe id events clusters (.answered answer)) →
    answer = .error (.connectionNotFound id)
  others_kept : ∀ id, (∀ call ∈ race.calls, call.target ≠ id) →
    (race.run schedule).hub.standing id = race.hub.standing id

theorem standing_run (wellFormed : race.hub.WellFormed) {id : ConnectionId}
    (foreign : ∀ call ∈ race.calls, call.target ≠ id) (schedule : List Nat) :
    (race.run schedule).hub.standing id = race.hub.standing id := by
  induction schedule generalizing race with
  | nil => rfl
  | cons turn rest ih =>
      have kept : (race.step turn).hub.standing id = race.hub.standing id := by
        rcases standing_step wellFormed turn id with same | ⟨call, _, member, target, -⟩
        · exact same
        · exact absurd target (foreign call member)
      refine (ih (wellFormed_step wellFormed turn) ?_).trans kept
      rcases step_cases wellFormed turn with
        ⟨-, idle⟩ | ⟨call, next, _, here, calls, -, advances⟩
      · rw [idle]
        exact foreign
      · intro other member
        rw [calls] at member
        rcases List.mem_or_eq_of_mem_set member with member | rfl
        · exact foreign other member
        · rw [advances.target]
          exact foreign call (List.mem_of_getElem? here)

theorem Guarded.nothing_left (guarded : race.Guarded) {id : ConnectionId} {reason : CloseReason}
    (ended : ∀ call ∈ race.calls, call.target = id → call.isOver = true)
    (closed : .close id reason (.answered true) ∈ race.calls) :
    race.hub.index.references id = false := by
  have unregistered : (race.hub.standing id).registered = false := guarded.departed _ closed rfl
  have nothing : (race.hub.standing id).holding = .none := by
    apply Classical.byContradiction
    intro occupied
    rcases guarded.swept id occupied with registered | ⟨call, member, target, sweeps⟩
    · rw [unregistered] at registered
      cases registered
    · rw [Call.sweeps_of_isOver (ended call member target)] at sweeps
      cases sweeps
  rw [Bool.eq_false_iff]
  intro referenced
  have occurs := SubscriptionIndex.references_iff.1 referenced
  rw [show race.hub.index.holding id = Holding.none from nothing] at occurs
  exact Holding.not_occurs_none occurs

theorem Guarded.stored_before (guarded : race.Guarded) {id : ConnectionId} {reason : CloseReason}
    {turn place : Nat} {events : List EventType} {clusters : List String}
    {subscribed : Subscribed} {schedule : List Nat}
    (clears : race.calls[turn]? = some (.close id reason .draining))
    (answered : (race.run schedule).calls[place]? =
      some (.subscribe id events clusters (.answered (.ok subscribed)))) :
    ∃ phase, race.calls[place]? = some (.subscribe id events clusters phase) ∧
      phase.hasStored = true := by
  have closing : (race.hub.standing id).isOpen = false :=
    guarded.drained _ (List.mem_of_getElem? clears) rfl
  obtain ⟨call, found, asks⟩ := asks_run guarded.wellFormed answered
  obtain ⟨phase, rfl⟩ := Call.eq_subscribe_of_asks asks
  refine ⟨phase, found, Classical.byContradiction fun absent => ?_⟩
  -- What is not in the index by now comes to its second check too late.
  have pending : (Call.subscribe id events clusters phase).isConfirmed = false := by
    cases phase with
    | confirmed _ _ => exact absurd rfl absent
    | answered answer =>
        cases answer with
        | ok _ => exact absurd rfl absent
        | error _ => rfl
    | _ => rfl
  obtain ⟨last, isLast, stillPending⟩ := call_run_of_shut isConfirmed_of_shut guarded.wellFormed
    closing found rfl pending schedule
  rw [answered] at isLast
  cases isLast
  cases stillPending

/-- A subscribe that has yet to ask, or was told that its connection is gone. -/
def Call.isBarred (id : ConnectionId) (call : Call) : Prop :=
  ∃ events clusters, call = .subscribe id events clusters .asking ∨
    call = .subscribe id events clusters (.answered (.error (.connectionNotFound id)))

theorem isBarred_of_shut {id : ConnectionId} {standing later : Standing} {call next : Call}
    (advances : Section standing call later next) (closing : standing.isOpen = false)
    (barred : call.isBarred id) : next.isBarred id := by
  obtain ⟨events, clusters, rfl | rfl⟩ := barred
  · cases advances with
    | allow opened =>
        rw [closing] at opened
        cases opened
    | refuse named =>
        rw [named closing]
        exact ⟨events, clusters, Or.inr rfl⟩
    | rest ended => cases ended
  · cases advances with
    | rest => exact ⟨events, clusters, Or.inr rfl⟩

theorem Guarded.refused_after (guarded : race.Guarded) {id : ConnectionId} {reason : CloseReason}
    {turn place : Nat} {events : List EventType} {clusters : List String}
    {answer : Except HubError Subscribed} {schedule : List Nat}
    (drained : race.calls[turn]? = some (.close id reason .draining))
    (asking : race.calls[place]? = some (.subscribe id events clusters .asking))
    (answered : (race.run schedule).calls[place]? =
      some (.subscribe id events clusters (.answered answer))) :
    answer = .error (.connectionNotFound id) := by
  have closing : (race.hub.standing id).isOpen = false :=
    guarded.drained _ (List.mem_of_getElem? drained) rfl
  obtain ⟨last, isLast, events, clusters, barred⟩ := call_run_of_shut isBarred_of_shut
    guarded.wellFormed closing asking rfl ⟨events, clusters, Or.inl rfl⟩ schedule
  rw [answered] at isLast
  rcases barred with rfl | rfl
  · cases isLast
  · cases isLast
    rfl

/-- However the sections of subscribes, unsubscribes and closes interleave, nothing of a closed
connection is left behind. -/
theorem subscribe_races_close {hub : Hub} (sound : hub.Sound) (requests : List Request)
    (schedule : List Nat) : (start hub requests).Settles schedule where
  nothing_left := fun id reason ended closed =>
    ((guarded_start sound requests).run schedule).nothing_left ended closed
  stored_before := by
    rintro id reason earlier turn later rfl clears place events clusters subscribed answered
    rw [run_append] at answered
    exact ((guarded_start sound requests).run earlier).stored_before clears answered
  refused_after := by
    rintro id reason earlier turn later rfl detached place events clusters answer asking answered
    have shift : earlier ++ turn :: later = earlier ++ [turn] ++ later := by simp
    rw [shift, run_append] at answered
    have drained : ((start hub requests).run (earlier ++ [turn])).calls[turn]? =
        some (.close id reason .draining) := by
      rw [run_append, run_cons, run_nil, step, detached]
      simp only [List.getElem?_set_self', detached]
      rfl
    exact ((guarded_start sound requests).run _).refused_after drained asking answered
  others_kept := fun id foreign => standing_run sound.wellFormed foreign schedule

/-- One subscribe gets through; a second one is late, puts its entries in after the connection
is shut and takes them back after the close has removed all others. -/
theorem subscribe_races_close_late :
    ((start ((Hub.ofConfig {}).run [.register "c" { subject := "s" } 1])
        [.subscribe "c" ["alert"] [], .subscribe "c" ["audit"] [],
          .close "c" .heartbeatTimeout, .close "c" .clientInitiated]).run
      [0, 0, 0, 0, 1, 2, 2, 1, 3, 2, 1, 2, 1]).hub.index.references "c" = false :=
  (subscribe_races_close ((Hub.sound_ofConfig {}).run _) _ _).nothing_left "c" .heartbeatTimeout
    (by decide) (List.mem_iff_getElem?.2 ⟨2, rfl⟩)

end Race

end EventHub
