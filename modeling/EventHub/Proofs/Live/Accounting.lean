import EventHub.Proofs.Live.Turn
import EventHub.Proofs.Session.Accounting

/-!
The books of a connection over a whole run, from its registration on. Every event that was ever
put into its buffer is written, in hand, counted as dropped or still queued, with the exception of
those that a session gives up while it has them in hand.
-/

namespace EventHub.LiveHub

/-- The events of a connection that the books show. -/
def accounted (live : LiveHub) (id : ConnectionId) : Nat :=
  ((live.hub.get? id).elim 0 fun connection => connection.buffer.tally) +
    (live.sessions.get? id).elim 0 fun session => session.spoken.length + session.inHand.length

/-- The event in hand that a session gives up in an action. -/
def givenUp (live : LiveHub) (id : ConnectionId) (action : Action) : List Payload :=
  match live.client? id, (live.act action).client? id with
  | some client, some last => client.givenUp last
  | _, _ => []

/-- The events that a session gives up in a run. -/
def lost (id : ConnectionId) : LiveHub → List Action → List Payload
  | _, [] => []
  | live, action :: rest => live.givenUp id action ++ lost id (live.act action) rest

variable {live next : LiveHub} {id : ConnectionId} {client last : Client} {config : HubConfig}
  {action : Action} {enqueued given : List Payload}

theorem accounted_of_client? (found : live.client? id = some client) :
    live.accounted id = client.accounted := by
  obtain ⟨present, served⟩ := client?_eq_some_iff.1 found
  rw [accounted, present, served, Client.accounted, Nat.add_comm]
  rfl

theorem givenUp_of_client? (before : live.client? id = some client)
    (after : (live.act action).client? id = some last) :
    live.givenUp id action = client.givenUp last := by
  rw [givenUp, before, after]

theorem givenUp_of_session_eq
    (same : (live.act action).sessions.get? id = live.sessions.get? id) :
    live.givenUp id action = [] := by
  rw [givenUp]
  split
  · rename_i client last before after
    have session_eq := (client?_eq_some_iff.1 after).2
    rw [same, (client?_eq_some_iff.1 before).2] at session_eq
    exact Client.givenUp_of_inHand_eq (by rw [Option.some.inj session_eq])
  · rfl

theorem labelled_run_idle (config : HubConfig) (actions : List Action)
    (found : ((idle config).run actions).client? id = some client) : client.Labelled := by
  have delivery := (delivery_idle config id).run actions
  obtain ⟨-, served⟩ := client?_eq_some_iff.1 found
  refine ⟨?_, delivery.inHand client.session served⟩
  intro payload member
  have onTrail : payload ∈ ((idle config).run actions).trail id := by
    rw [LiveHub.trail, served, Option.elim_some, Session.trail]
    exact List.mem_append_left _ (List.mem_append_right _ member)
  obtain ⟨routing, -, rfl⟩ := List.mem_map.1 (delivery.trail.subset onTrail)
  exact routing.event.isEventText_toPayload

/-- The books of a connection: what was ever buffered, and what was given up. -/
structure Books (config : HubConfig) (id : ConnectionId) (live : LiveHub)
    (enqueued given : List Payload) : Prop where
  reached : ∃ actions, live = (idle config).run actions
  claimed : ∀ client, live.client? id = some client →
    client.connection.control.reader ≠ .waiting
  sum : enqueued.length = live.accounted id + given.length
  once : given = [] ∨ given.length = 1 ∧
    ∃ client, live.client? id = some client ∧ client.session.send.isEmptied = true

theorem books_idle (config : HubConfig) (id : ConnectionId) :
    Books config id (idle config) [] [] := by
  have absent : (idle config).client? id = none := rfl
  refine ⟨⟨[], rfl⟩, ?_, rfl, Or.inl rfl⟩
  intro client found
  rw [absent] at found
  cases found

theorem Books.staffed (books : Books config id live enqueued given) : live.Staffed := by
  obtain ⟨actions, rfl⟩ := books.reached
  exact (staffed_idle config).run actions

theorem Books.reached_act (books : Books config id live enqueued given) (action : Action) :
    ∃ actions, live.act action = (idle config).run actions := by
  obtain ⟨actions, rfl⟩ := books.reached
  exact ⟨actions ++ [action], by rw [run_append]; rfl⟩

theorem Books.buffers (books : Books config id live enqueued given) {payload : Payload}
    (buffered : live.buffered? id action = some payload) :
    Books config id (live.act action) (enqueued ++ [payload]) given := by
  obtain ⟨connection, found, -, becomes, sessions⟩ := get?_of_buffered books.staffed buffered
  have spacious : 0 < connection.buffer.capacity := by
    obtain ⟨actions, rfl⟩ := books.reached
    exact (regular_run_idle config actions found).spacious
  have served {session : Session} (serves : live.sessions.get? id = some session) :
      live.client? id = some ⟨connection, session⟩ := client?_eq_some found serves
  refine ⟨books.reached_act action, ?_, ?_, ?_⟩
  · intro client foundLast
    obtain ⟨present, serves⟩ := client?_eq_some_iff.1 foundLast
    rw [sessions] at serves
    rw [← Option.some.inj (becomes.symm.trans present)]
    exact books.claimed _ (served serves)
  · have sum := books.sum
    rw [accounted, found, Option.elim_some] at sum
    rw [accounted, becomes, sessions, Option.elim_some, Buffer.tally_enqueue spacious,
      List.length_append, sum, List.length_singleton]
    omega
  · rcases books.once with nothing | ⟨single, client, foundClient, emptied⟩
    · exact Or.inl nothing
    · obtain ⟨-, serves⟩ := client?_eq_some_iff.1 foundClient
      exact Or.inr ⟨single, _, client?_eq_some becomes (sessions.symm ▸ serves), emptied⟩

theorem Books.apart (books : Books config id live enqueued given)
    (keeps : (live.hub.standing id).Keeps ((live.act action).hub.standing id))
    (session : (live.act action).sessions.get? id = live.sessions.get? id) :
    Books config id (live.act action) enqueued given := by
  -- Whoever has a session now had one before, and the connection is the same.
  have had {last : Client} (found : (live.act action).client? id = some last) :
      ∃ client, live.client? id = some client ∧ client.connection.Keeps last.connection := by
    obtain ⟨present, serves⟩ := client?_eq_some_iff.1 found
    rw [session] at serves
    obtain ⟨connection, foundConnection⟩ :=
      Option.isSome_iff_exists.1 (books.staffed.known id last.session serves)
    obtain ⟨kept, becomes, keeps⟩ := keeps.kept connection foundConnection
    cases present.symm.trans becomes
    exact ⟨⟨connection, last.session⟩, client?_eq_some foundConnection serves, keeps⟩
  refine ⟨books.reached_act action, ?_, ?_, ?_⟩
  · intro last found
    obtain ⟨client, before, keeps⟩ := had found
    rw [keeps.reader (books.claimed client before)]
    exact books.claimed client before
  · have tally : ((live.act action).hub.get? id).elim 0 (fun kept => kept.buffer.tally) =
        (live.hub.get? id).elim 0 fun connection => connection.buffer.tally := by
      cases found : live.hub.get? id with
      | some connection =>
          obtain ⟨kept, becomes, keeps⟩ := keeps.kept connection found
          have becomes : (live.act action).hub.get? id = some kept := becomes
          rw [becomes, Option.elim_some, Option.elim_some, keeps.buffer]
      | none =>
          cases becomes : (live.act action).hub.get? id with
          | none => rfl
          | some connection =>
              obtain ⟨bounds, fresh⟩ := keeps.fresh found connection becomes
              rw [Option.elim_some, fresh, Buffer.tally_ofConfig]
              rfl
    rw [accounted, tally, session]
    exact books.sum
  · rcases books.once with nothing | ⟨single, client, before, emptied⟩
    · exact Or.inl nothing
    · obtain ⟨present, serves⟩ := client?_eq_some_iff.1 before
      obtain ⟨kept, becomes, -⟩ := keeps.kept client.connection present
      exact Or.inr ⟨single, _, client?_eq_some becomes (session.trans serves), emptied⟩

theorem Books.starts (books : Books config id live enqueued given) {connection : Connection}
    {sink : Sink} (found : live.hub.get? id = some connection)
    (unclaimed : connection.control.reader = .waiting) (silent : sink.written = [])
    (after : (live.act action).client? id = some (opened id connection sink)) :
    live.givenUp id action = [] ∧ Books config id (live.act action) enqueued given := by
  have unserved : live.sessions.get? id = none := by
    cases serves : live.sessions.get? id with
    | none => rfl
    | some session => exact absurd unclaimed (books.claimed _ (client?_eq_some found serves))
  have absent : live.client? id = none := by
    rw [client?, found, unserved]
    rfl
  let claimed : Connection :=
    { connection with control := { connection.control with reader := .taken }, attached := true }
  have keeps : claimed.Keeps (opened id connection sink).connection :=
    Upkeep.keeps_apply (.sendControl (.welcome id connection.protocolVersion)) rfl claimed
  refine ⟨by rw [givenUp, absent], books.reached_act action, ?_, ?_, ?_⟩
  · intro client foundClient
    cases after.symm.trans foundClient
    rw [keeps.reader (by intro waiting; cases waiting)]
    intro waiting
    cases waiting
  · have sum := books.sum
    have buffer : (opened id connection sink).connection.buffer = connection.buffer := keeps.buffer
    have spoken : (opened id connection sink).session.spoken = [] := by
      rw [Session.spoken, opened, silent]
      rfl
    rw [accounted, found, unserved] at sum
    rw [accounted_of_client? after, Client.accounted, buffer, spoken, sum]
    simp [Session.inHand, opened, SendPhase.message?]
  · rcases books.once with nothing | ⟨-, client, before, -⟩
    · exact Or.inl nothing
    · rw [absent] at before
      cases before

theorem Books.balances (books : Books config id live enqueued given)
    (before : live.client? id = some client) (turn : live.Turn id action client last) :
    client.Balances live.clock config last := by
  obtain ⟨actions, rfl⟩ := books.reached
  rcases turn with turn | ⟨failAfter, stallAfter, -, rfl⟩
  · rw [config_run_idle] at turn
    exact Client.balances_turns (labelled_run_idle config actions before) turn
  · exact .of_same rfl rfl rfl

theorem Books.turns (books : Books config id live enqueued given)
    (before : live.client? id = some client) (turn : live.Turn id action client last)
    (after : (live.act action).client? id = some last)
    (claimed : client.connection.control.reader ≠ .waiting →
      last.connection.control.reader ≠ .waiting) :
    Books config id (live.act action) enqueued (given ++ live.givenUp id action) := by
  have balances := books.balances before turn
  have emptied (done : client.session.send.isEmptied = true) :
      last.session.send.isEmptied = true := by
    rcases turn with turn | ⟨failAfter, stallAfter, -, rfl⟩
    · exact Client.isEmptied_turns turn done
    · exact done
  have givenUp_eq := givenUp_of_client? before after
  refine ⟨books.reached_act action, ?_, ?_, ?_⟩
  · intro other found
    cases after.symm.trans found
    exact claimed (books.claimed client before)
  · have sum := books.sum
    rw [accounted_of_client? before, balances.sum] at sum
    rw [accounted_of_client? after, givenUp_eq, List.length_append, sum]
    omega
  · rcases books.once with nothing | ⟨single, other, found, done⟩
    · rw [nothing, List.nil_append]
      cases gone : live.givenUp id action with
      | nil => exact Or.inl rfl
      | cons payload rest =>
          rw [givenUp_eq] at gone
          have single := client.length_givenUp_le last
          rw [gone] at single
          refine Or.inr ⟨Nat.le_antisymm single (Nat.succ_pos _), last, after, ?_⟩
          exact balances.ends (by rw [gone]; exact List.cons_ne_nil payload rest)
    · cases before.symm.trans found
      have nothing : live.givenUp id action = [] := by
        rw [givenUp_eq, Client.givenUp, Client.inHand_of_isEmptied done]
        exact ite_self []
      rw [nothing, List.append_nil]
      exact Or.inr ⟨single, last, after, emptied done⟩

theorem Books.act (books : Books config id live enqueued given)
    (spares : action.spares id = true) :
    Books config id (live.act action) (enqueued ++ (live.buffered? id action).toList)
      (given ++ live.givenUp id action) := by
  cases buffered : live.buffered? id action with
  | some payload =>
      obtain ⟨-, -, -, -, sessions⟩ := get?_of_buffered books.staffed buffered
      rw [givenUp_of_session_eq (by rw [sessions]), List.append_nil]
      exact books.buffers buffered
  | none =>
      rw [Option.toList_none, List.append_nil]
      cases concern_act books.staffed spares buffered with
      | apart keeps session =>
          rw [givenUp_of_session_eq session, List.append_nil]
          exact books.apart keeps session
      | starts found unclaimed silent after =>
          obtain ⟨nothing, later⟩ := books.starts found unclaimed silent after
          rw [nothing, List.append_nil]
          exact later
      | turns before turn after claimed => exact books.turns before turn after claimed

theorem Books.run (books : Books config id live enqueued given) {actions : List Action}
    (spared : ∀ action ∈ actions, action.spares id = true) :
    Books config id (live.run actions) (enqueued ++ live.bufferedIn id actions)
      (given ++ live.lost id actions) := by
  induction actions generalizing live enqueued given with
  | nil =>
      rw [bufferedIn, lost, List.append_nil, List.append_nil]
      exact books
  | cons action rest ih =>
      have later := ih (books.act (spared action List.mem_cons_self))
        fun other member => spared other (List.mem_cons_of_mem action member)
      rw [bufferedIn, lost, ← List.append_assoc, ← List.append_assoc]
      exact later

/-- What is given up was in hand, and could not be written or waited for. -/
theorem Books.cause (books : Books config id live enqueued given)
    (spares : action.spares id = true) {payload : Payload}
    (gone : payload ∈ live.givenUp id action) :
    ∃ client, live.client? id = some client ∧ client.session.inHand = [payload] ∧
      client.Loses live.clock config := by
  cases buffered : live.buffered? id action with
  | some other =>
      obtain ⟨-, -, -, -, sessions⟩ := get?_of_buffered books.staffed buffered
      rw [givenUp_of_session_eq (by rw [sessions])] at gone
      cases gone
  | none =>
      cases concern_act books.staffed spares buffered with
      | apart keeps session =>
          rw [givenUp_of_session_eq session] at gone
          cases gone
      | starts found unclaimed silent after =>
          rw [(books.starts found unclaimed silent after).1] at gone
          cases gone
      | turns before turn after claimed =>
          rename_i client last
          rw [givenUp_of_client? before after] at gone
          have cause := (books.balances before turn).cause (List.ne_nil_of_mem gone)
          exact ⟨client, before, Client.inHand_of_givenUp gone, cause⟩

theorem mem_lost {actions : List Action} {payload : Payload}
    (gone : payload ∈ live.lost id actions) :
    ∃ earlier action later, actions = earlier ++ action :: later ∧
      payload ∈ (live.run earlier).givenUp id action := by
  induction actions generalizing live with
  | nil => cases gone
  | cons action rest ih =>
      rcases List.mem_append.1 gone with now | afterwards
      · exact ⟨[], action, rest, rfl, now⟩
      · obtain ⟨earlier, other, later, rest_eq, given⟩ := ih afterwards
        exact ⟨action :: earlier, other, later, congrArg (List.cons action) rest_eq, given⟩

/-- The books of a connection that leaves its queues to its session. An event that was ever buffered
is written, in hand, counted as dropped or queued, or it is the one event that the session gave up
while it had it in hand, as the sink refused it or time was out. With nothing in hand the books
balance without that exactly when nothing was given up. -/
theorem accounting (config : HubConfig) (actions : List Action) (id : ConnectionId)
    (spared : ∀ action ∈ actions, action.spares id = true) {client : Client}
    (found : ((idle config).run actions).client? id = some client) :
    ((idle config).bufferedIn id actions).length =
        client.session.spoken.length + client.session.inHand.length +
          client.connection.buffer.dropped + client.connection.buffer.queue.length +
          ((idle config).lost id actions).length ∧
      ((idle config).lost id actions).length ≤ 1 ∧
      (∀ payload ∈ (idle config).lost id actions, ∃ earlier action later before,
        actions = earlier ++ action :: later ∧
          ((idle config).run earlier).client? id = some before ∧
          before.session.inHand = [payload] ∧
          before.Loses ((idle config).run earlier).clock config) ∧
      (client.session.inHand = [] →
        (((idle config).bufferedIn id actions).length =
            client.session.spoken.length + client.connection.buffer.dropped +
              client.connection.buffer.queue.length ↔
          (idle config).lost id actions = [])) := by
  have books := (books_idle config id).run spared
  rw [List.nil_append, List.nil_append] at books
  have sum := books.sum
  rw [accounted_of_client? found, Client.accounted, Buffer.tally] at sum
  refine ⟨by omega, ?_, ?_, ?_⟩
  · rcases books.once with nothing | ⟨single, -⟩
    · simp [nothing]
    · exact Nat.le_of_eq single
  · intro payload gone
    obtain ⟨earlier, action, later, split, given⟩ := mem_lost gone
    subst split
    have booksEarlier := (books_idle config id).run fun other member =>
      spared other (List.mem_append_left _ member)
    have spares := spared action (List.mem_append_right _ List.mem_cons_self)
    obtain ⟨before, met, inHand, loses⟩ := booksEarlier.cause spares given
    exact ⟨earlier, action, later, before, rfl, met, inHand, loses⟩
  · intro emptyHanded
    rw [emptyHanded, List.length_nil] at sum
    rw [← List.length_eq_zero_iff]
    omega

/-- A client is welcomed, but that is all its sink takes. -/
def welcomed : List Action :=
  [.hub (.register "c" { subject := "s" } 1), .hub (.subscribe "c" ["alert"] []),
    .startSession "c" (some 1) none, .work (.send "c"), .work (.send "c")]

/-- An event is routed, and its write fails. -/
def refused : List Action :=
  [.hub (.route ⟨"alert", "west", .null, 0⟩), .work (.send "c"), .work (.send "c")]

def withBuffer (live : LiveHub) (id : ConnectionId) (buffer : Buffer) : LiveHub :=
  { live with hub := live.hub.modify id fun connection => { connection with buffer } }

/-- The event is gone: neither written nor dropped nor queued. -/
theorem run_refused : ∃ client, ((idle {}).run (welcomed ++ refused)).client? "c" = some client ∧
    client.session.sink.written = [.text (ServerMessage.welcome "c" 1).toPayload] ∧
    client.session.inHand = [] ∧ client.connection.buffer.tally = 0 := by
  -- The marks of the buffer are worked out in floating point, which no proof can look into; the run
  -- ends the same way whatever they are.
  have fresh : (idle {}).run welcomed =
      ((idle {}).run welcomed).withBuffer "c" (Buffer.ofConfig {}) := rfl
  have any_marks (high low : Nat) : ∃ client,
      ((((idle {}).run welcomed).withBuffer "c" ⟨1000, high, low, [], 0, false, 0, 0⟩).run
        refused).client? "c" = some client ∧
      client.session.sink.written = [.text (ServerMessage.welcome "c" 1).toPayload] ∧
      client.session.inHand = [] ∧ client.connection.buffer.tally = 0 := by
    match high with
    | 0 => exact ⟨_, rfl, rfl, rfl, rfl⟩
    | 1 => exact ⟨_, rfl, rfl, rfl, rfl⟩
    | high + 2 => exact ⟨_, rfl, rfl, rfl, rfl⟩
  rw [run_append, fresh]
  exact any_marks _ _

theorem accounting_refused :
    ∃ client, ((idle {}).run (welcomed ++ refused)).client? "c" = some client ∧
      ((idle {}).bufferedIn "c" (welcomed ++ refused)).length =
        client.session.spoken.length + client.session.inHand.length +
          client.connection.buffer.dropped + client.connection.buffer.queue.length +
          ((idle {}).lost "c" (welcomed ++ refused)).length := by
  obtain ⟨client, found, -⟩ := run_refused
  exact ⟨client, found, (accounting {} (welcomed ++ refused) "c" (by decide) found).1⟩

theorem unaccounted_refused :
    ∃ client, ((idle {}).run (welcomed ++ refused)).client? "c" = some client ∧
      client.session.inHand = [] ∧
      ((idle {}).bufferedIn "c" (welcomed ++ refused)).length = 1 ∧
      client.session.spoken.length + client.connection.buffer.dropped +
        client.connection.buffer.queue.length = 0 := by
  obtain ⟨client, found, written, emptyHanded, tally⟩ := run_refused
  refine ⟨client, found, emptyHanded, rfl, ?_⟩
  have spoken : client.session.spoken = [] := by
    simp [Session.spoken, written, Outbound.eventText?, ServerMessage.isEventText_toPayload]
  rw [Buffer.tally] at tally
  rw [spoken, List.length_nil]
  omega

end EventHub.LiveHub
