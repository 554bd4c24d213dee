import Mathlib.Data.List.Basic
import Mathlib.Data.List.Induction
import EventHub.Relay.Basic
import EventHub.Proofs.Relay.Pump

/-!
A relay at any moment of any run: what it has passed on, what stops it, and what it does from then
on.
-/

namespace EventHub

/-- What a stopped relay waits for. -/
inductive Reply where
  /-- The client's sink is done with the farewell. -/
  | farewell
  | closed
  deriving DecidableEq

namespace RelayPhase

def ended? : RelayPhase → Option RelayEnd
  | .relaying => none
  | .farewell => some .shutdown
  | .closing _ ending | .finished ending => some ending

def awaits : RelayPhase → List Reply
  | .relaying | .finished _ => []
  | .farewell => [.farewell, .closed, .closed]
  | .closing .hub _ => [.closed, .closed]
  | .closing .client _ => [.closed]

def closedLegs : RelayPhase → List Leg
  | .relaying | .farewell | .closing .hub _ => []
  | .closing .client _ => [.hub]
  | .finished _ => [.hub, .client]

end RelayPhase

namespace RelayEvent

def clientItem? : RelayEvent → Option (Pump.Item UInt16)
  | .clientSends item => some item
  | _ => none

def hubItem? : RelayEvent → Option (Pump.Item CloseCode)
  | .hubSends item => some item
  | _ => none

def reply? : RelayEvent → Option Reply
  | .farewell _ => some .farewell
  | .closed => some .closed
  | _ => none

/-- Whether the client's sink took the farewell. -/
def farewell? : RelayEvent → Option Bool
  | .farewell taken => some taken
  | _ => none

end RelayEvent

namespace Relay

def clientItems (events : List RelayEvent) : List (Pump.Item UInt16) :=
  events.filterMap RelayEvent.clientItem?

def hubItems (events : List RelayEvent) : List (Pump.Item CloseCode) :=
  events.filterMap RelayEvent.hubItem?

def ended? (relay : Relay) : Option RelayEnd :=
  relay.phase.ended?

inductive Stops (relay : Relay) : RelayEvent → RelayEnd → Prop
  | client {event : PumpEvent} {ending : PumpEnd} (ends : relay.toHub.Ends event ending) :
      Stops relay (.fromClient event) (.pump .client ending)
  | hub {event : PumpEvent} {ending : PumpEnd} (ends : relay.toClient.Ends event ending) :
      Stops relay (.fromHub event) (.pump .hub ending)
  | shutdown : Stops relay .shutdown .shutdown

def Undisturbed (events : List RelayEvent) : Prop :=
  ∀ before event after, events = before ++ event :: after → ∀ ending,
    ¬ (run before).Stops event ending

structure Safe (events : List RelayEvent) : Prop where
  toHub : (run events).toHub.sent <+: Pump.relayable CloseCode.ofNumber (clientItems events)
  toClient : (run events).toClient.sent <+: Pump.relayable CloseCode.number (hubItems events)
  /-- Nothing is held back by a pump that waits for its source. -/
  caughtUp :
    ((run events).toHub.phase = .reading →
      ∃ read, clientItems events = read ++ (run events).toHub.unread ∧
        (run events).toHub.sent = Pump.carried CloseCode.ofNumber read) ∧
    ((run events).toClient.phase = .reading →
      ∃ read, hubItems events = read ++ (run events).toClient.unread ∧
        (run events).toClient.sent = Pump.carried CloseCode.number read)
  /-- The first thing that stops a relay is what it ends by. -/
  stops : ∀ ending, (run events).ended? = some ending ↔
    ∃ before event after, events = before ++ event :: after ∧ Undisturbed before ∧
      (run before).Stops event ending
  /-- A stopped relay passes nothing on. -/
  quiet : ∀ before after ending, events = before ++ after →
    (run before).ended? = some ending →
    (run events).ended? = some ending ∧
      (run events).toHub.sent = (run before).toHub.sent ∧
      (run events).toClient.sent = (run before).toClient.sent
  /-- The hub's leg is closed first, and no leg while the relay is at work. -/
  closed : (run events).closed <+: [.hub, .client] ∧
    ((run events).ended? = none → (run events).closed = [])
  /-- Once the replies that a stopped relay waits for are there, it has closed both legs. -/
  closes : ∀ before after ending, events = before ++ after →
    (run before).ended? = some ending →
    (run before).phase.awaits.Sublist (after.filterMap RelayEvent.reply?) →
    (run events).phase = .finished ending ∧ (run events).closed = [.hub, .client]
  /-- The close frame of the hub is the last one for the client, and says the same. -/
  hubClose : (run events).ended? = some (.pump .hub .closed) →
    ∃ read frame rest, hubItems events = read ++ .frame (.close frame) :: rest ∧
      Pump.Plain read ∧
      (run events).framesToClient = Pump.carried CloseCode.number read ++
        [.close (frame.map fun (code, reason) => (code.number, reason))] ∧
      ∀ number reason, frame = some (CloseCode.ofNumber number, reason) →
        (run events).framesToClient.getLast? = some (.close (some (number, reason)))
  /-- At a shutdown the client is told why after all that was relayed, if its sink takes it. -/
  shutdown : ∀ before after, events = before ++ .shutdown :: after → Undisturbed before →
    (run events).framesToClient = (run before).toClient.sent ++
      if after.findSome? RelayEvent.farewell? = some true then
        [.close (some (1001, "server_shutdown"))] else []
  /-- Nobody else makes up frames for the client. -/
  untold : (run events).ended? ≠ some .shutdown →
    (run events).framesToClient = (run events).toClient.sent

/-! One step. -/

structure Sound (events : List RelayEvent) (relay : Relay) : Prop where
  toHub : relay.toHub.Faithful CloseCode.ofNumber (clientItems events)
  toClient : relay.toClient.Faithful CloseCode.number (hubItems events)
  atWork : relay.ended? = none → relay.toHub.ended? = none ∧ relay.toClient.ended? = none
  byHub : ∀ ending, relay.ended? = some (.pump .hub ending) → relay.toClient.ended? = some ending
  untold : relay.ended? ≠ some .shutdown ∨ relay.phase = .farewell → relay.goodbye = []
  closed : relay.closed = relay.phase.closedLegs

variable {relay : Relay} {events : List RelayEvent} {event : RelayEvent} {ending : RelayEnd}

theorem clientItems_snoc (events : List RelayEvent) (event : RelayEvent) :
    clientItems (events ++ [event]) = clientItems events ++ event.clientItem?.toList := by
  rw [clientItems, List.filterMap_append]
  cases event <;> rfl

theorem hubItems_snoc (events : List RelayEvent) (event : RelayEvent) :
    hubItems (events ++ [event]) = hubItems events ++ event.hubItem?.toList := by
  rw [hubItems, List.filterMap_append]
  cases event <;> rfl

theorem sound_start : Sound [] {} where
  toHub := Pump.faithful_start _
  toClient := Pump.faithful_start _
  atWork := fun _ => ⟨rfl, rfl⟩
  byHub := nofun
  untold := fun _ => rfl
  closed := rfl

theorem Sound.fromClient (sound : Sound events relay) (event : PumpEvent) :
    Sound events (relay.step (.fromClient event)) := by
  have unchanged := sound
  obtain ⟨phase, toHub, toClient, goodbye, closed⟩ := relay
  cases phase with
  | relaying =>
      have stepped := sound.toHub.step event
      simp only [step]
      cases ends : (toHub.step Frame.toHub? event).ended? with
      | none =>
          exact { sound with
            toHub := stepped
            atWork := fun atWork => ⟨ends, (sound.atWork atWork).2⟩ }
      | some ending =>
          exact {
            toHub := stepped
            toClient := sound.toClient
            atWork := nofun
            byHub := nofun
            untold := fun _ => sound.untold (.inl nofun)
            closed := sound.closed }
  | farewell | closing | finished => exact unchanged

theorem Sound.fromHub (sound : Sound events relay) (event : PumpEvent) :
    Sound events (relay.step (.fromHub event)) := by
  have unchanged := sound
  obtain ⟨phase, toHub, toClient, goodbye, closed⟩ := relay
  cases phase with
  | relaying =>
      have stepped := sound.toClient.step event
      simp only [step]
      cases ends : (toClient.step Frame.toClient? event).ended? with
      | none =>
          exact { sound with
            toClient := stepped
            atWork := fun atWork => ⟨(sound.atWork atWork).1, ends⟩
            byHub := nofun }
      | some ending =>
          exact {
            toHub := sound.toHub
            toClient := stepped
            atWork := nofun
            byHub := fun other same => by
              cases same
              exact ends
            untold := fun _ => sound.untold (.inl nofun)
            closed := sound.closed }
  | farewell | closing | finished => exact unchanged

theorem Sound.shutdown (sound : Sound events relay) : Sound events (relay.step .shutdown) := by
  have unchanged := sound
  obtain ⟨phase, toHub, toClient, goodbye, closed⟩ := relay
  cases phase with
  | relaying =>
      exact { sound with
        atWork := nofun
        byHub := nofun
        untold := fun _ => sound.untold (.inl nofun) }
  | farewell | closing | finished => exact unchanged

theorem Sound.farewell (sound : Sound events relay) (taken : Bool) :
    Sound events (relay.step (.farewell taken)) := by
  have unchanged := sound
  obtain ⟨phase, toHub, toClient, goodbye, closed⟩ := relay
  cases phase with
  | farewell =>
      exact { sound with
        atWork := nofun
        byHub := nofun
        untold := fun told => by
          rcases told with told | told
          · exact absurd rfl told
          · cases told }
  | relaying | closing | finished => exact unchanged

theorem Sound.close (sound : Sound events relay) : Sound events (relay.step .closed) := by
  have unchanged := sound
  obtain ⟨phase, toHub, toClient, goodbye, closed⟩ := relay
  cases phase with
  | closing leg ending =>
      have untold (told : some ending ≠ some RelayEnd.shutdown) : goodbye = [] :=
        sound.untold (.inl told)
      have isClosed := sound.closed
      cases leg with
      | hub =>
          exact { sound with
            atWork := nofun
            untold := fun told => untold (told.resolve_right nofun)
            closed := by
              cases isClosed
              rfl }
      | client =>
          exact { sound with
            atWork := nofun
            untold := fun told => untold (told.resolve_right nofun)
            closed := by
              cases isClosed
              rfl }
  | relaying | farewell | finished => exact unchanged

theorem Sound.step (sound : Sound events relay) (event : RelayEvent) :
    Sound (events ++ [event]) (relay.step event) := by
  -- Only what comes in at a leg is new to its pump.
  have meanwhile {next : Relay} (sound : Sound events next)
      (silentClient : event.clientItem? = none) (silentHub : event.hubItem? = none) :
      Sound (events ++ [event]) next := {
    sound with
    toHub := by
      rw [clientItems_snoc, silentClient, Option.toList_none, List.append_nil]
      exact sound.toHub
    toClient := by
      rw [hubItems_snoc, silentHub, Option.toList_none, List.append_nil]
      exact sound.toClient }
  cases event with
  | clientSends item =>
      exact { sound with
        toHub := by
          rw [clientItems_snoc]
          exact sound.toHub.receive item
        toClient := by
          rw [hubItems_snoc]
          exact (List.append_nil _).symm ▸ sound.toClient }
  | hubSends item =>
      exact { sound with
        toHub := by
          rw [clientItems_snoc]
          exact (List.append_nil _).symm ▸ sound.toHub
        toClient := by
          rw [hubItems_snoc]
          exact sound.toClient.receive item }
  | fromClient event => exact meanwhile (sound.fromClient event) rfl rfl
  | fromHub event => exact meanwhile (sound.fromHub event) rfl rfl
  | shutdown => exact meanwhile sound.shutdown rfl rfl
  | farewell taken => exact meanwhile (sound.farewell taken) rfl rfl
  | closed => exact meanwhile sound.close rfl rfl

theorem ended?_endWith (atWork : relay.phase = .relaying) (source : Leg)
    (ending? : Option PumpEnd) :
    (relay.endWith source ending?).ended? = ending?.map (.pump source) := by
  cases ending? with
  | none => exact congrArg RelayPhase.ended? atWork
  | some ending => rfl

theorem Sound.ended?_step_iff (sound : Sound events relay) (atWork : relay.ended? = none)
    (event : RelayEvent) (ending : RelayEnd) :
    (relay.step event).ended? = some ending ↔ relay.Stops event ending := by
  have ⟨hubGoesOn, clientGoesOn⟩ := sound.atWork atWork
  have fromClient := sound.toHub.ended_step_iff hubGoesOn
  have fromHub := sound.toClient.ended_step_iff clientGoesOn
  obtain ⟨phase, toHub, toClient, goodbye, closed⟩ := relay
  cases phase with
  | relaying =>
      cases event with
      | clientSends | hubSends | farewell | closed => exact iff_of_false nofun nofun
      | fromClient event =>
          rw [Relay.step, ended?_endWith rfl, Option.map_eq_some_iff]
          refine ⟨?_, fun stops => ?_⟩
          · rintro ⟨ending, ended, rfl⟩
            exact .client ((fromClient event ending).1 ended)
          · cases stops with
            | client ends => exact ⟨_, (fromClient event _).2 ends, rfl⟩
      | fromHub event =>
          rw [Relay.step, ended?_endWith rfl, Option.map_eq_some_iff]
          refine ⟨?_, fun stops => ?_⟩
          · rintro ⟨ending, ended, rfl⟩
            exact .hub ((fromHub event ending).1 ended)
          · cases stops with
            | hub ends => exact ⟨_, (fromHub event _).2 ends, rfl⟩
      | shutdown =>
          refine ⟨fun ended => ?_, fun stops => ?_⟩
          · cases ended
            exact .shutdown
          · cases stops
            rfl
  | farewell | closing | finished => cases atWork

/-- What a stopped relay has passed on and what it ended by stay as they are. -/
structure Rests (relay next : Relay) : Prop where
  ended : next.ended? = relay.ended?
  toHub : next.toHub.sent = relay.toHub.sent
  toClient : next.toClient.sent = relay.toClient.sent

theorem rests_step (stopped : relay.ended? = some ending) (event : RelayEvent) :
    relay.Rests (relay.step event) := by
  obtain ⟨phase, toHub, toClient, goodbye, closed⟩ := relay
  cases phase with
  | relaying => cases stopped
  | farewell | finished => cases event <;> exact ⟨rfl, rfl, rfl⟩
  | closing leg => cases event <;> cases leg <;> exact ⟨rfl, rfl, rfl⟩

theorem step_shutdown (atWork : relay.ended? = none) :
    relay.step .shutdown = { relay with phase := .farewell } := by
  obtain ⟨phase, toHub, toClient, goodbye, closed⟩ := relay
  cases phase with
  | relaying => rfl
  | farewell | closing | finished => cases atWork

theorem phase_of_awaits_nil (stopped : relay.ended? = some ending)
    (nothing : relay.phase.awaits = []) : relay.phase = .finished ending := by
  obtain ⟨phase, toHub, toClient, goodbye, closed⟩ := relay
  cases phase with
  | relaying => cases stopped
  | farewell => cases nothing
  | closing leg => cases leg <;> cases nothing
  | finished =>
      cases stopped
      rfl

theorem phase_step_of_finished (finished : relay.phase = .finished ending) (event : RelayEvent) :
    (relay.step event).phase = .finished ending := by
  obtain ⟨phase, toHub, toClient, goodbye, closed⟩ := relay
  cases finished
  cases event <;> rfl

/-- The reply that a stopped relay waits for brings it on, and no other. -/
theorem awaits_step {reply : Reply} {later : List Reply}
    (waits : relay.phase.awaits = reply :: later) (event : RelayEvent) :
    (relay.step event).phase.awaits =
      if event.reply? = some reply then later else reply :: later := by
  obtain ⟨phase, toHub, toClient, goodbye, closed⟩ := relay
  cases phase with
  | relaying | finished => cases waits
  | farewell =>
      cases waits
      cases event <;> rfl
  | closing leg =>
      cases leg <;> cases waits <;> cases event <;> rfl

/-- What a relay tells a client by itself changes only while it tells it of a shutdown. -/
theorem goodbye_step (elsewhere : relay.phase ≠ .farewell) (event : RelayEvent) :
    (relay.step event).goodbye = relay.goodbye := by
  obtain ⟨phase, toHub, toClient, goodbye, closed⟩ := relay
  cases phase with
  | farewell => exact absurd rfl elsewhere
  | finished => cases event <;> rfl
  | closing leg => cases event <;> cases leg <;> rfl
  | relaying =>
      cases event with
      | fromClient event =>
          simp only [step]
          cases (toHub.step Frame.toHub? event).ended? <;> rfl
      | fromHub event =>
          simp only [step]
          cases (toClient.step Frame.toClient? event).ended? <;> rfl
      | clientSends | hubSends | shutdown | farewell | closed => rfl

theorem elsewhere_step (stopped : relay.ended? = some ending) (elsewhere : relay.phase ≠ .farewell)
    (event : RelayEvent) : (relay.step event).phase ≠ .farewell := by
  obtain ⟨phase, toHub, toClient, goodbye, closed⟩ := relay
  cases phase with
  | relaying => cases stopped
  | farewell => exact absurd rfl elsewhere
  | finished => cases event <;> nofun
  | closing leg => cases event <;> cases leg <;> nofun

/-! A whole run. -/

theorem run_append (before after : List RelayEvent) :
    run (before ++ after) = (run before).steps after :=
  List.foldl_append

theorem run_snoc (events : List RelayEvent) (event : RelayEvent) :
    run (events ++ [event]) = (run events).step event :=
  run_append events [event]

theorem sound_run (events : List RelayEvent) : Sound events (run events) := by
  induction events using List.reverseRecOn with
  | nil => exact sound_start
  | append_singleton events event ih =>
      rw [run_snoc]
      exact ih.step event

theorem rests_steps (stopped : relay.ended? = some ending) (events : List RelayEvent) :
    relay.Rests (relay.steps events) := by
  induction events generalizing relay with
  | nil => exact ⟨rfl, rfl, rfl⟩
  | cons event events ih =>
      have first := rests_step stopped event
      have later := ih (first.ended.trans stopped)
      exact ⟨later.ended.trans first.ended, later.toHub.trans first.toHub,
        later.toClient.trans first.toClient⟩

theorem ended?_run_append {before : List RelayEvent} (stopped : (run before).ended? = some ending)
    (after : List RelayEvent) : (run (before ++ after)).ended? = some ending := by
  rw [run_append]
  exact (rests_steps stopped after).ended.trans stopped

theorem undisturbed_iff : Undisturbed events ↔ (run events).ended? = none := by
  constructor
  · induction events using List.reverseRecOn with
    | nil => exact fun _ => rfl
    | append_singleton events event ih =>
        intro undisturbed
        have atWork : (run events).ended? = none := by
          refine ih fun before other after split => ?_
          refine undisturbed before other (after ++ [event]) ?_
          rw [split, List.append_assoc, List.cons_append]
        rw [run_snoc, Option.eq_none_iff_forall_ne_some]
        intro ending ended
        exact undisturbed events event [] rfl ending
          (((sound_run events).ended?_step_iff atWork event ending).1 ended)
  · intro atWork before event after split ending stops
    -- Even if something else came first, the relay is not at work any more after the event.
    obtain ⟨other, ended⟩ : ∃ other, (run (before ++ [event])).ended? = some other := by
      cases earlier : (run before).ended? with
      | none =>
          rw [run_snoc]
          exact ⟨ending, ((sound_run before).ended?_step_iff earlier event ending).2 stops⟩
      | some other => exact ⟨other, ended?_run_append earlier [event]⟩
    rw [split, List.append_cons, ended?_run_append ended] at atWork
    cases atWork

theorem ended?_run_iff (events : List RelayEvent) (ending : RelayEnd) :
    (run events).ended? = some ending ↔
      ∃ before event after, events = before ++ event :: after ∧ Undisturbed before ∧
        (run before).Stops event ending := by
  constructor
  · induction events using List.reverseRecOn with
    | nil => nofun
    | append_singleton events event ih =>
        intro ended
        cases earlier : (run events).ended? with
        | none =>
            rw [run_snoc, (sound_run events).ended?_step_iff earlier] at ended
            exact ⟨events, event, [], rfl, undisturbed_iff.2 earlier, ended⟩
        | some other =>
            have same : other = ending :=
              Option.some.inj ((ended?_run_append earlier [event]).symm.trans ended)
            obtain ⟨before, first, after, rfl, undisturbed, stops⟩ := ih (same ▸ earlier)
            exact ⟨before, first, after ++ [event], by simp, undisturbed, stops⟩
  · rintro ⟨before, event, after, rfl, undisturbed, stops⟩
    rw [List.append_cons]
    refine ended?_run_append ?_ after
    rw [run_snoc]
    exact ((sound_run before).ended?_step_iff (undisturbed_iff.1 undisturbed) event ending).2 stops

/-- With all the replies it waits for, a stopped relay is over. -/
theorem phase_steps_of_answered (stopped : relay.ended? = some ending) {events : List RelayEvent}
    (answered : relay.phase.awaits.Sublist (events.filterMap RelayEvent.reply?)) :
    (relay.steps events).phase = .finished ending := by
  induction events generalizing relay with
  | nil => exact phase_of_awaits_nil stopped (List.sublist_nil.1 answered)
  | cons event events ih =>
      refine ih ((rests_step stopped event).ended.trans stopped) ?_
      cases waits : relay.phase.awaits with
      | nil =>
          rw [phase_step_of_finished (phase_of_awaits_nil stopped waits) event]
          exact List.nil_sublist _
      | cons reply later =>
          rw [waits] at answered
          rw [awaits_step waits]
          cases given : event.reply? with
          | none =>
              rw [List.filterMap_cons_none given] at answered
              exact answered
          | some other =>
              rw [List.filterMap_cons_some given] at answered
              by_cases awaited : other = reply
              · cases awaited
                rw [if_pos rfl]
                exact answered.of_cons_cons
              · rw [if_neg fun same => awaited (Option.some.inj same)]
                exact answered.of_cons_of_ne (Ne.symm awaited)

theorem goodbye_steps (stopped : relay.ended? = some ending) (elsewhere : relay.phase ≠ .farewell)
    (events : List RelayEvent) : (relay.steps events).goodbye = relay.goodbye := by
  induction events generalizing relay with
  | nil => rfl
  | cons event events ih =>
      exact (ih ((rests_step stopped event).ended.trans stopped)
        (elsewhere_step stopped elsewhere event)).trans (goodbye_step elsewhere event)

/-- The first answer about the farewell decides. -/
theorem goodbye_steps_of_farewell (telling : relay.phase = .farewell) (untold : relay.goodbye = [])
    (events : List RelayEvent) :
    (relay.steps events).goodbye =
      if events.findSome? RelayEvent.farewell? = some true then [shutdownClose] else [] := by
  induction events generalizing relay with
  | nil => exact untold
  | cons event events ih =>
      obtain ⟨phase, toHub, toClient, goodbye, closed⟩ := relay
      cases telling
      cases event with
      | farewell taken =>
          have elsewhere : RelayPhase.closing .hub .shutdown ≠ .farewell := nofun
          refine (goodbye_steps rfl elsewhere events).trans ?_
          cases taken <;> rfl
      | clientSends | hubSends | fromClient | fromHub | shutdown | closed => exact ih rfl untold

theorem hubClose_run (ended : (run events).ended? = some (.pump .hub .closed)) :
    ∃ read frame rest, hubItems events = read ++ .frame (.close frame) :: rest ∧
      Pump.Plain read ∧
      (run events).framesToClient = Pump.carried CloseCode.number read ++
        [.close (frame.map fun (code, reason) => (code.number, reason))] ∧
      ∀ number reason, frame = some (CloseCode.ofNumber number, reason) →
        (run events).framesToClient.getLast? = some (.close (some (number, reason))) := by
  have sound := sound_run events
  have finished := Pump.ended?_eq_some_iff.1 (sound.byHub .closed ended)
  obtain ⟨read, frame, rest, arrived, plain, sent⟩ := sound.toClient.closed finished
  have nothingElse : (run events).framesToClient = (run events).toClient.sent := by
    rw [framesToClient, sound.untold (.inl (by rw [ended]; nofun)), List.append_nil]
  refine ⟨read, frame, rest, arrived, plain, nothingElse.trans sent, ?_⟩
  rintro number reason rfl
  rw [nothingElse, sent, List.getLast?_concat]
  simp [CloseCode.number_ofNumber]

theorem framesToClient_run_of_shutdown {before after : List RelayEvent}
    (undisturbed : Undisturbed before) :
    (run (before ++ .shutdown :: after)).framesToClient = (run before).toClient.sent ++
      if after.findSome? RelayEvent.farewell? = some true then
        [.close (some (1001, "server_shutdown"))] else [] := by
  have atWork := undisturbed_iff.1 undisturbed
  have untold := (sound_run before).untold (.inl (by rw [atWork]; nofun))
  rw [List.append_cons, run_append, run_snoc, framesToClient]
  have stopped : ({ run before with phase := .farewell } : Relay).ended? = some .shutdown := rfl
  have telling : ({ run before with phase := .farewell } : Relay).phase = .farewell := rfl
  rw [step_shutdown atWork, (rests_steps stopped after).toClient,
    goodbye_steps_of_farewell telling untold after]
  rfl

/-- Whatever the two sides send, whatever fails, and whenever the gateway shuts down: a relay passes
on what it was sent, in order and once, stops for the first reason to, passes nothing on from then
on, closes both legs, and gives the client the hub's own close or that of the shutdown. -/
theorem safe_run (events : List RelayEvent) : Safe events where
  toHub := (sound_run events).toHub.sent_isPrefix
  toClient := (sound_run events).toClient.sent_isPrefix
  caughtUp := ⟨(sound_run events).toHub.caughtUp, (sound_run events).toClient.caughtUp⟩
  stops := ended?_run_iff events
  quiet := by
    rintro before after ending rfl stopped
    have rests := rests_steps stopped after
    rw [← run_append] at rests
    exact ⟨rests.ended.trans stopped, rests.toHub, rests.toClient⟩
  closed := by
    rw [(sound_run events).closed, ended?]
    cases (run events).phase with
    | relaying | farewell => exact ⟨List.nil_prefix, fun _ => rfl⟩
    | finished => exact ⟨List.prefix_refl _, nofun⟩
    | closing leg =>
        cases leg with
        | hub => exact ⟨List.nil_prefix, nofun⟩
        | client => exact ⟨⟨[.client], rfl⟩, nofun⟩
  closes := by
    rintro before after ending rfl stopped answered
    have finished := phase_steps_of_answered stopped answered
    rw [← run_append] at finished
    refine ⟨finished, ?_⟩
    rw [(sound_run (before ++ after)).closed, finished]
    rfl
  hubClose := hubClose_run
  shutdown := by
    rintro before after rfl undisturbed
    exact framesToClient_run_of_shutdown undisturbed
  untold := fun elsewise => by
    rw [framesToClient, (sound_run events).untold (.inl elsewise), List.append_nil]

/-- A frame that is still being written out at a shutdown stays ahead of the farewell. -/
example :
    (run [.hubSends (.frame (.text "a")), .hubSends (.frame (.text "b")), .fromHub .reads,
        .fromHub .taken, .shutdown, .fromHub .flushed, .fromHub .reads, .farewell true,
        .closed, .closed]).framesToClient =
      [.text "a", .close (some (1001, "server_shutdown"))] := by
  decide

end Relay

end EventHub
