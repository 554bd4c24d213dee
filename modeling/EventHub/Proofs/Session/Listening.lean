import EventHub.Proofs.Hub.Subscribing
import EventHub.Proofs.Json.Codec
import EventHub.Proofs.Session.Moves

/-!
What becomes of all that a client sends. The receive loop carries out the commands in the order in
which they came, one for each turn that it gets, and leaves the rest alone once the client is gone,
reading failed or it has seen a cancellation. Between its turns others may do to the hub whatever
they like.
-/

namespace EventHub

namespace Inbound

/-- Only a text can hold a command, and one that does not parse holds none. -/
def command? : Inbound → Option ClientCommand
  | text content => (ClientCommand.parse content).toOption
  | other | close | failure | ended => none

/-- How the loop ends on an item, if it does. -/
def exit? : Inbound → Option ReceiveExit
  | text _ | other => none
  | close | ended => some .clientClosed
  | failure => some .transportError

end Inbound

namespace Connection

/-- The connection after a reply: the last message that waits, unless there is no room for it or
nobody to read it. -/
def answered (connection : Connection) (message : ServerMessage) : Connection :=
  if connection.control.reader ≠ .gone ∧
      connection.control.waiting.length < connection.control.capacity then
    { connection with
      control :=
        { connection.control with
          waiting := connection.control.waiting ++ [message.toPayload] } }
  else connection

theorem answered_eq (connection : Connection) (message : ServerMessage) :
    connection.answered message = (connection.sendControl message).toOption.getD connection := by
  rw [answered, sendControl, ControlQueue.send]
  by_cases gone : connection.control.reader = .gone
  · rw [if_neg fun both => both.1 gone, if_pos gone]
    rfl
  · by_cases full : connection.control.capacity ≤ connection.control.waiting.length
    · rw [if_neg fun both => Nat.not_lt.2 full both.2, if_neg gone, if_pos full]
      rfl
    · rw [if_pos ⟨gone, Nat.lt_of_not_le full⟩, if_neg gone, if_neg full]
      rfl

theorem id_answered (connection : Connection) (message : ServerMessage) :
    (connection.answered message).id = connection.id := by
  rw [answered]
  split
  · rfl
  · rfl

end Connection

namespace Hub

variable {hub : Hub} {id : ConnectionId} {connection : Connection}

def isCancelled (hub : Hub) (id : ConnectionId) : Bool :=
  (hub.get? id).any Connection.cancelled

/-- What a command does to the hub, its reply included. Where there is none, nothing happens. -/
inductive Performs (now : Instant) (hub : Hub) (id : ConnectionId) :
    Option ClientCommand → Hub → Prop where
  | silent : Performs now hub id none hub
  | pong :
      Performs now hub id (some .pong)
        (hub.modify id fun connection =>
          { connection with heartbeat := connection.heartbeat.recordPong now })
  | subscribes {events : List EventType} {clusters : List String} {connection : Connection}
      {stored : Hub} (found : hub.get? id = some connection)
      (permits : connection.identity.clusters.Permits clusters)
      (accepted : hub.subscribe id events clusters =
        (stored, .ok { events, clusters := connection.identity.clusters.granted clusters }))
      (stores : hub.Stores id events ⟨connection.identity.clusters.granted clusters⟩ stored) :
      Performs now hub id (some (.subscribe events clusters))
        (stored.modify id fun subscriber =>
          subscriber.answered
            (.subscribed events (connection.identity.clusters.granted clusters).names))
  | refuses {events : List EventType} {clusters : List String} {cause : HubError}
      (refused : hub.subscribe id events clusters = (hub, .error cause)) :
      Performs now hub id (some (.subscribe events clusters))
        (hub.modify id fun subscriber => subscriber.answered (.error cause.code cause.message))
  | unsubscribes {events : List EventType} {dropped : Hub} (drops : hub.Drops id events dropped) :
      Performs now hub id (some (.unsubscribe events))
        (dropped.modify id fun subscriber => subscriber.answered (.unsubscribed events))

theorem found_run (wellFormed : hub.WellFormed) (found : hub.get? id = some connection)
    (operations : List Operation) :
    ∃ later, (hub.run operations).get? id = some later := by
  have known : (hub.standing id).connection.isSome = true := by
    rw [show (hub.standing id).connection = some connection from found]
    rfl
  exact Option.isSome_iff_exists.1 (known_run wellFormed operations known)

theorem put_self (wellFormed : hub.WellFormed) (found : hub.get? id = some connection) :
    hub.put connection = hub := by
  rw [put_eq_modify wellFormed found (fun stored => stored) rfl]
  simp [modify, Table.update]

end Hub

namespace Session

variable {hub : Hub} {id : ConnectionId} {connection : Connection} {now : Instant}

theorem reply_eq (wellFormed : hub.WellFormed) (found : hub.get? id = some connection)
    (message : ServerMessage) :
    reply hub id message = hub.modify id fun connection => connection.answered message := by
  have answers := Hub.put_eq_modify wellFormed found (·.answered message)
    (connection.id_answered message)
  rw [← answers, connection.answered_eq]
  simp only [reply, found]
  cases connection.sendControl message with
  | ok sent => rfl
  | error cause => exact (Hub.put_self wellFormed found).symm

/-- Carries out a command and replies to it. -/
def perform (now : Instant) (hub : Hub) (id : ConnectionId) : Option ClientCommand → Hub
  | none => hub
  | some command =>
      match execute now hub id command with
      | (next, some message) => reply next id message
      | (next, none) => next

theorem handleText_eq (now : Instant) (hub : Hub) (id : ConnectionId) (content : String) :
    handleText now hub id content = perform now hub id (Inbound.text content).command? := by
  rw [handleText, Inbound.command?]
  cases ClientCommand.parse content with
  | error cause => rfl
  | ok command => rfl

theorem performs_perform (wellFormed : hub.WellFormed) (found : hub.get? id = some connection)
    (now : Instant) (command : Option ClientCommand) :
    hub.Performs now id command (perform now hub id command) := by
  cases command with
  | none => exact .silent
  | some command =>
      cases command with
      | pong => exact .pong
      | subscribe events clusters =>
          have refused {cause : HubError}
              (answer : hub.subscribe id events clusters = (hub, .error cause)) :
              hub.Performs now id (some (.subscribe events clusters))
                (perform now hub id (some (.subscribe events clusters))) := by
            simp only [perform, execute, answer]
            rw [reply_eq wellFormed found]
            exact .refuses answer
          cases hub.subscribing id events clusters with
          | closed isClosed answer => exact refused answer
          | denied found opened first answer => exact refused answer
          | exceeds found opened permits tooMany answer => exact refused answer
          | @stores subscriber stored isFound opened permits fits answer stores =>
              have touched := (Hub.effect_subscribe wellFormed id events clusters).wellFormed
              rw [answer] at touched
              have stillFound : stored.get? id = some connection := by
                rw [stores.rest]
                exact found
              simp only [perform, execute, answer]
              rw [reply_eq touched stillFound]
              exact .subscribes isFound permits answer stores
      | unsubscribe events =>
          have touched := (Hub.effect_unsubscribe wellFormed id events).wellFormed
          simp only [perform, execute]
          rw [reply_eq touched (show (hub.unsubscribe id events).1.get? id = some connection
            from found)]
          exact .unsubscribes (hub.drops_unsubscribe id events)

/-- Handles the next item, whether a close was asked for or not. -/
def readStep (now : Instant) (hub : Hub) (session : Session) : Option (Hub × Session) :=
  match session.receive, session.inbound with
  | .reading, item :: rest =>
      some (match item.exit? with
        | some exit => (hub, { session with receive := .over exit })
        | none => (perform now hub session.id item.command?, { session with inbound := rest }))
  | _, _ => none

/-- The loop looks for a cancellation first and only then for an item. -/
theorem receiveStep_eq {session : Session} (found : hub.get? session.id = some connection)
    (reading : session.receive = .reading) (now : Instant) :
    session.receiveStep now hub =
      if hub.isCancelled session.id then some (hub, { session with receive := .over .cancelled })
      else session.readStep now hub := by
  simp only [receiveStep, Hub.isCancelled, found, reading, readStep, Option.any_some]
  split
  · rfl
  · cases session.inbound with
    | nil => rfl
    | cons item rest =>
        cases item with
        | text content =>
            simp only [handleText_eq]
            rfl
        | other => rfl
        | close => rfl
        | failure => rfl
        | ended => rfl

theorem readStep_of_stays {session : Session} {item : Inbound} {items : List Inbound}
    (reading : session.receive = .reading) (inbound : session.inbound = item :: items)
    (stays : item.exit? = none) (now : Instant) (hub : Hub) :
    session.readStep now hub =
      some (perform now hub session.id item.command?, { session with inbound := items }) := by
  rw [readStep, reading, inbound]
  simp only [stays]

theorem readStep_of_leaves {session : Session} {item : Inbound} {items : List Inbound}
    {exit : ReceiveExit} (reading : session.receive = .reading)
    (inbound : session.inbound = item :: items) (leaves : item.exit? = some exit) (now : Instant)
    (hub : Hub) :
    session.readStep now hub = some (hub, { session with receive := .over exit }) := by
  rw [readStep, reading, inbound]
  simp only [leaves]

/-- One turn of the loop, taken after others had theirs. When an item is there and a close has been
asked for, the loop may come upon either; `overlooks` says that it comes upon the item. -/
structure Turn where
  others : List Hub.Operation := []
  now : Instant
  overlooks : Bool := false

def Turn.step (turn : Turn) (hub : Hub) (session : Session) : Option (Hub × Session) :=
  if turn.overlooks then (session.readStep turn.now hub).or (session.receiveStep turn.now hub)
  else session.receiveStep turn.now hub

/-- What others do and the turns of the loop, one after the other. -/
def listen (hub : Hub) (session : Session) : List Turn → Hub × Session
  | [] => (hub, session)
  | turn :: later =>
      let shared := hub.run turn.others
      let (next, after) := (turn.step shared session).getD (shared, session)
      listen next after later

/-- Item after item is handled, one in each turn, and nothing else happens but what others do. -/
inductive Heard (id : ConnectionId) : Hub → List Turn → List Inbound → Hub → Prop where
  | done (hub : Hub) : Heard id hub [] [] hub
  | hears {hub next last : Hub} {turn : Turn} {turns : List Turn} {item : Inbound}
      {items : List Inbound} (stays : item.exit? = none)
      (goesOn : (hub.run turn.others).isCancelled id = true → turn.overlooks = true)
      (performs : (hub.run turn.others).Performs turn.now id item.command? next)
      (later : Heard id next turns items last) :
      Heard id hub (turn :: turns) (item :: items) last

/-- What ends the handling of items that are still to come, and the phase that the loop is in after
the rest of its turns. -/
inductive Ends (id : ConnectionId) : Hub → List Inbound → List Turn → ReceivePhase → Prop where
  | pauses (hub : Hub) (rest : List Inbound) : Ends id hub rest [] .reading
  | idles {hub : Hub} {turn : Turn} {turns : List Turn} {phase : ReceivePhase}
      (goesOn : (hub.run turn.others).isCancelled id = false)
      (later : Ends id (hub.run turn.others) [] turns phase) :
      Ends id hub [] (turn :: turns) phase
  | stops {hub : Hub} {rest : List Inbound} {turn : Turn} {turns : List Turn}
      (cancelled : (hub.run turn.others).isCancelled id = true)
      (noticed : turn.overlooks = true → rest = []) :
      Ends id hub rest (turn :: turns) (.over .cancelled)
  | leaves {hub : Hub} {item : Inbound} {items : List Inbound} {turn : Turn} {turns : List Turn}
      {exit : ReceiveExit} (leaves : item.exit? = some exit)
      (goesOn : (hub.run turn.others).isCancelled id = true → turn.overlooks = true) :
      Ends id hub (item :: items) (turn :: turns) (.over exit)

variable {session : Session} {turn : Turn} {turns : List Turn}

theorem Turn.step_of_stops (found : hub.get? session.id = some connection)
    (reading : session.receive = .reading) (cancelled : hub.isCancelled session.id = true)
    (noticed : turn.overlooks = true → session.inbound = []) :
    turn.step hub session = some (hub, { session with receive := .over .cancelled }) := by
  have stops : session.receiveStep turn.now hub = _ :=
    (receiveStep_eq found reading turn.now).trans (if_pos cancelled)
  rw [step, stops]
  split
  · rename_i overlooks
    simp only [readStep, reading, noticed overlooks, Option.none_or]
  · rfl

theorem Turn.step_of_nothing (found : hub.get? session.id = some connection)
    (reading : session.receive = .reading) (goesOn : hub.isCancelled session.id = false)
    (nothing : session.inbound = []) : turn.step hub session = none := by
  have idles : session.readStep turn.now hub = none := by
    simp only [readStep, reading, nothing]
  rw [step, receiveStep_eq found reading, goesOn, idles]
  split
  · rfl
  · rfl

theorem Turn.step_of_item {item : Inbound} {items : List Inbound}
    (found : hub.get? session.id = some connection) (reading : session.receive = .reading)
    (inbound : session.inbound = item :: items)
    (goesOn : hub.isCancelled session.id = true → turn.overlooks = true) :
    turn.step hub session = session.readStep turn.now hub := by
  rw [step, receiveStep_eq found reading]
  split
  · simp only [readStep, reading, inbound, Option.some_or]
  · rename_i careful
    exact if_neg fun cancelled => careful (goesOn cancelled)

theorem Turn.step_of_over {exit : ReceiveExit} (isOver : session.receive = .over exit) :
    turn.step hub session = none := by
  simp [step, readStep, receiveStep, isOver]

theorem listen_of_over {exit : ReceiveExit} (isOver : session.receive = .over exit) (hub : Hub)
    (turns : List Turn) :
    listen hub session turns = (hub.run (turns.flatMap Turn.others), session) := by
  induction turns generalizing hub with
  | nil => rfl
  | cons turn later ih =>
      simp only [listen, turn.step_of_over isOver, Option.getD_none, ih, List.flatMap_cons,
        Hub.run_append]

/-- The turn that ends the loop is its last; after it only others do something. -/
theorem listen_of_ended {exit : ReceiveExit} (later : List Turn)
    (ended : turn.step (hub.run turn.others) session =
      some (hub.run turn.others, { session with receive := .over exit })) :
    listen hub session (turn :: later) =
      (hub.run ((turn :: later).flatMap Turn.others), { session with receive := .over exit }) := by
  rw [List.flatMap_cons, Hub.run_append, listen]
  simp only [ended, Option.getD_some]
  exact listen_of_over rfl _ later

theorem touches_perform (wellFormed : hub.WellFormed) (found : hub.get? id = some connection)
    (now : Instant) (item : Inbound) :
    ∃ kept, hub.Touches (perform now hub id item.command?) id kept := by
  cases item with
  | text content =>
      rw [← handleText_eq]
      obtain ⟨kept, touches, -⟩ := touches_handleText wellFormed found content
      exact ⟨kept, touches⟩
  | _ => exact ⟨connection, .refl wellFormed found⟩

theorem listen_of_nothing (wellFormed : hub.WellFormed)
    (found : hub.get? session.id = some connection) (reading : session.receive = .reading)
    (nothing : session.inbound = []) (turns : List Turn) :
    ∃ phase, Ends session.id hub [] turns phase ∧
      listen hub session turns =
        (hub.run (turns.flatMap Turn.others), { session with receive := phase }) := by
  induction turns generalizing hub connection with
  | nil => exact ⟨.reading, .pauses hub [], by rw [← reading]; rfl⟩
  | cons turn later ih =>
      obtain ⟨shared, present⟩ := Hub.found_run wellFormed found turn.others
      cases cancelled : (hub.run turn.others).isCancelled session.id with
      | true =>
          have stops := turn.step_of_stops present reading cancelled fun _ => nothing
          exact ⟨.over .cancelled, .stops cancelled fun _ => rfl, listen_of_ended later stops⟩
      | false =>
          obtain ⟨phase, ends, waited⟩ := ih (Hub.wellFormed_run wellFormed turn.others) present
          refine ⟨phase, .idles cancelled ends, ?_⟩
          rw [List.flatMap_cons, Hub.run_append]
          simp only [listen, turn.step_of_nothing present reading cancelled nothing,
            Option.getD_none]
          exact waited

/-- Whatever others do meanwhile: the loop handles what its client sends from the first item on,
each by its command alone, until an item ends it, it comes upon a cancellation, or it has had all
its turns. What comes after that is left as it is. -/
theorem listen_semantics (wellFormed : hub.WellFormed)
    (found : hub.get? session.id = some connection) (reading : session.receive = .reading)
    (turns : List Turn) :
    ∃ handled rest earlier later heard phase,
      session.inbound = handled ++ rest ∧ turns = earlier ++ later ∧
        Heard session.id hub earlier handled heard ∧ Ends session.id heard rest later phase ∧
        listen hub session turns =
          (heard.run (later.flatMap Turn.others),
            { session with inbound := rest, receive := phase }) := by
  induction turns generalizing hub session connection with
  | nil =>
      exact ⟨[], session.inbound, [], [], hub, .reading, rfl, rfl, .done hub, .pauses hub _, by
        rw [← reading]; rfl⟩
  | cons turn later ih =>
      cases inbound : session.inbound with
      | nil =>
          obtain ⟨phase, ends, waited⟩ :=
            listen_of_nothing wellFormed found reading inbound (turn :: later)
          rw [← inbound] at ends ⊢
          exact ⟨[], session.inbound, [], turn :: later, hub, phase, rfl, rfl, .done hub, ends,
            waited⟩
      | cons item items =>
          obtain ⟨shared, present⟩ := Hub.found_run wellFormed found turn.others
          have shares := Hub.wellFormed_run wellFormed turn.others
          -- Only a turn that does not overlook it lets a cancellation go before the item.
          by_cases stops : (hub.run turn.others).isCancelled session.id = true ∧
              turn.overlooks = false
          · obtain ⟨cancelled, careful⟩ := stops
            have noticed {rest : List Inbound} : turn.overlooks = true → rest = [] := by
              simp [careful]
            have ended := turn.step_of_stops present reading cancelled noticed
            exact ⟨[], item :: items, [], turn :: later, hub, .over .cancelled, rfl, rfl,
              .done hub, .stops cancelled noticed, inbound ▸ listen_of_ended later ended⟩
          · have goesOn : (hub.run turn.others).isCancelled session.id = true →
                turn.overlooks = true := by
              simpa using stops
            have reads := turn.step_of_item present reading inbound goesOn
            cases exits : item.exit? with
            | some exit =>
                have ended := reads.trans (readStep_of_leaves reading inbound exits _ _)
                exact ⟨[], item :: items, [], turn :: later, hub, .over exit, rfl, rfl,
                  .done hub, .leaves exits goesOn, inbound ▸ listen_of_ended later ended⟩
            | none =>
                obtain ⟨kept, touches⟩ := touches_perform shares present turn.now item
                have performs := performs_perform shares present turn.now item.command?
                let continued : Session := { session with inbound := items }
                have stillFound : Hub.get? _ continued.id = some kept := touches.own
                have stillReading : continued.receive = .reading := reading
                obtain ⟨handled, rest, before, after, heard, phase, split, rfl, hears, ends,
                  listened⟩ := ih touches.wellFormed stillFound stillReading
                refine ⟨item :: handled, rest, turn :: before, after, heard, phase,
                  congrArg (item :: ·) split, rfl, .hears exits goesOn performs hears, ends, ?_⟩
                simp only [listen, reads, readStep_of_stays reading inbound exits,
                  Option.getD_some]
                exact listened

/-- One client is there and wants to hear of alerts. -/
def alerted : Hub :=
  (Hub.ofConfig {}).run
    [.register "c" { subject := "s" } 1, .tend "c" .attach, .subscribe "c" ["alert"] []]

/-- The client gives that up and leaves; what it sends after that comes too late. -/
def parting : Session where
  id := "c"
  inbound := [.other, .text (ClientCommand.unsubscribe ["alert"]).print, .close, .text "late"]
  sink := {}

def partingTurns : List Turn :=
  [{ now := 1 }, { others := [.tend "c" (.pong 1)], now := 2 }, { now := 3 }, { now := 4 }]

theorem listen_parting :
    (listen alerted parting partingTurns).2 =
      { parting with inbound := [.close, .text "late"], receive := .over .clientClosed } := by
  let shared := alerted.run [.tend "c" (.pong 1)]
  let next : Session :=
    { parting with inbound := [.text (ClientCommand.unsubscribe ["alert"]).print, .close,
        .text "late"] }
  have passes : Turn.step { now := 1 } alerted parting = some (alerted, next) := rfl
  have obeys : Turn.step { others := [.tend "c" (.pong 1)], now := 2 } shared next =
      some (reply (shared.unsubscribe "c" ["alert"]).1 "c" (.unsubscribed ["alert"]),
        { parting with inbound := [.close, .text "late"] }) := by
    have handled : handleText 2 shared "c" (ClientCommand.unsubscribe ["alert"]).print =
        reply (shared.unsubscribe "c" ["alert"]).1 "c" (.unsubscribed ["alert"]) := by
      rw [handleText, ClientCommand.parse_print]
      rfl
    rw [← handled]
    rfl
  simp only [partingTurns, listen, passes, Hub.run_nil, Option.getD_some, obeys, shared]
  rfl

theorem listen_semantics_parting :
    ∃ earlier later heard, partingTurns = earlier ++ later ∧
      Heard "c" alerted earlier [.other, .text (ClientCommand.unsubscribe ["alert"]).print] heard ∧
      Ends "c" heard [.close, .text "late"] later (.over .clientClosed) := by
  have wellFormed : alerted.WellFormed :=
    Hub.wellFormed_run (Hub.wellFormed_ofConfig {}) _
  have found : alerted.get? parting.id =
      some { Connection.create {} "c" { subject := "s" } 1 with attached := true } := rfl
  obtain ⟨handled, rest, earlier, later, heard, phase, inbound, split, hears, ends, listened⟩ :=
    listen_semantics wellFormed found rfl partingTurns
  have leaves := (congrArg Prod.snd listened).symm.trans listen_parting
  have rest_eq : rest = [.close, .text "late"] := congrArg Session.inbound leaves
  have phase_eq : phase = .over .clientClosed := congrArg Session.receive leaves
  subst rest_eq phase_eq
  have handled_eq : [.other, .text (ClientCommand.unsubscribe ["alert"]).print] = handled :=
    List.append_cancel_right
      (show [.other, .text (ClientCommand.unsubscribe ["alert"]).print] ++ _ = handled ++ _
        from inbound)
  exact ⟨earlier, later, heard, split, handled_eq ▸ hears, ends⟩

end Session

end EventHub
