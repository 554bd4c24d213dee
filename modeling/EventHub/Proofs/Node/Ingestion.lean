import EventHub.Node.Api

/-!
What becomes of a batch of events that a producer submits. A batch with a malformed event is
refused as a whole; otherwise the queue takes as much of it as there is room for, from the front,
and says how much that was. A batch that nothing is taken of is answered with an error, and no error
leaves a part of a batch behind.
-/

namespace EventHub

namespace IngestQueue

variable {queue : IngestQueue}

/-- How many more events there is room for. -/
def free (queue : IngestQueue) : Nat :=
  queue.capacity - queue.waiting.length

/-- The events wait behind those that wait already. -/
def extend (queue : IngestQueue) (events : List Event) : IngestQueue :=
  { queue with waiting := queue.waiting ++ events }

theorem extend_nil (queue : IngestQueue) : queue.extend [] = queue := by
  rw [extend, List.append_nil]

theorem extend_extend (queue : IngestQueue) (events later : List Event) :
    (queue.extend events).extend later = queue.extend (events ++ later) := by
  simp only [extend, List.append_assoc]

theorem free_extend (queue : IngestQueue) (events : List Event) :
    (queue.extend events).free = queue.free - events.length := by
  simp only [free, extend, List.length_append]
  omega

theorem publish_of_closed (closed : queue.isOpen = false) (event : Event) :
    queue.publish event = .error .ingestClosed := by
  rw [publish, closed]
  rfl

theorem publish_of_free (isOpen : queue.isOpen = true) (room : 0 < queue.free) (event : Event) :
    queue.publish event = .ok (queue.extend [event]) := by
  have hasRoom : queue.hasRoom = true := decide_eq_true (Nat.lt_of_sub_pos room)
  rw [publish, if_neg (by simp [isOpen]), if_pos hasRoom]
  rfl

theorem publish_of_full (isOpen : queue.isOpen = true) (full : queue.free = 0) (event : Event) :
    queue.publish event = .error .ingestFull := by
  have noRoom : queue.hasRoom = false :=
    decide_eq_false (Nat.not_lt.2 (Nat.sub_eq_zero_iff_le.1 full))
  rw [publish, isOpen, noRoom]
  rfl

end IngestQueue

namespace EventInput

variable {input : EventInput} {inputs : List EventInput}

def IsFit (input : EventInput) : Prop :=
  input.eventType ≠ "" ∧ input.cluster ≠ ""

/-- The event that is submitted, stamped with `now` unless its producer gave a time. -/
def event (now : UInt64) (input : EventInput) : Event :=
  ⟨input.eventType, input.cluster, input.payload, input.producedAt.getD now⟩

theorem toEvent_of_isFit (fit : input.IsFit) (now : UInt64) :
    input.toEvent now = .ok (input.event now) := by
  rw [toEvent, if_neg fit.1, if_neg fit.2]
  rfl

theorem toEvent_of_not_isFit (unfit : ¬input.IsFit) (now : UInt64) :
    ∃ detail, input.toEvent now = .error (.badRequest detail) := by
  rw [toEvent]
  split
  · exact ⟨_, rfl⟩
  · rename_i typed
    split
    · exact ⟨_, rfl⟩
    · rename_i placed
      exact absurd ⟨typed, placed⟩ unfit

theorem mapM_toEvent_of_isFit (fit : ∀ input ∈ inputs, input.IsFit) (now : UInt64) :
    inputs.mapM (toEvent now) = .ok (inputs.map (event now)) := by
  induction inputs with
  | nil => rfl
  | cons first rest ih =>
      obtain ⟨fitFirst, fit⟩ := List.forall_mem_cons.1 fit
      rw [List.mapM_cons, toEvent_of_isFit fitFirst now, ih fit]
      rfl

theorem mapM_toEvent_of_not_isFit (unfit : ∃ input ∈ inputs, ¬input.IsFit) (now : UInt64) :
    ∃ detail, inputs.mapM (toEvent now) = .error (.badRequest detail) := by
  induction inputs with
  | nil =>
      obtain ⟨input, absent, -⟩ := unfit
      cases absent
  | cons first rest ih =>
      rw [List.mapM_cons]
      by_cases fitFirst : first.IsFit
      · have later : ∃ input ∈ rest, ¬input.IsFit := by
          obtain ⟨input, member, unfit⟩ := unfit
          rcases List.mem_cons.1 member with rfl | member
          · exact absurd fitFirst unfit
          · exact ⟨input, member, unfit⟩
        obtain ⟨detail, refused⟩ := ih later
        rw [toEvent_of_isFit fitFirst now, refused]
        exact ⟨detail, rfl⟩
      · obtain ⟨detail, refused⟩ := toEvent_of_not_isFit fitFirst now
        rw [refused]
        exact ⟨detail, rfl⟩

end EventInput

namespace Ingest

variable {queue : IngestQueue} {inputs : List EventInput}

theorem publishAll_of_closed (closed : queue.isOpen = false) (count : Nat) (event : Event)
    (rest : List Event) :
    publishAll queue count (event :: rest) = (queue, count, some .ingestClosed) := by
  simp only [publishAll, IngestQueue.publish_of_closed closed]

/-- One by one the events fill the slots that are free. -/
theorem publishAll_of_isOpen (isOpen : queue.isOpen = true) (count : Nat) (events : List Event) :
    publishAll queue count events =
      (queue.extend (events.take queue.free), count + min events.length queue.free,
        if events.length ≤ queue.free then none else some .ingestFull) := by
  induction events generalizing queue count with
  | nil => simp [publishAll, IngestQueue.extend_nil]
  | cons event rest ih =>
      rcases Nat.eq_zero_or_pos queue.free with full | room
      · simp [publishAll, IngestQueue.publish_of_full isOpen full, full, IngestQueue.extend_nil]
      · have stillOpen : (queue.extend [event]).isOpen = true := isOpen
        obtain ⟨slots, isSucc⟩ := Nat.exists_eq_succ_of_ne_zero (Nat.ne_of_gt room)
        simp only [publishAll, IngestQueue.publish_of_free isOpen room, ih stillOpen,
          IngestQueue.free_extend, IngestQueue.extend_extend, isSucc]
        simp [Nat.add_assoc, Nat.add_comm 1, Nat.succ_min_succ]

/-- Nothing is there to be submitted, or something that is no event. -/
def Unfit (inputs : List EventInput) : Prop :=
  inputs = [] ∨ ∃ input ∈ inputs, ¬input.IsFit

theorem submit_of_unfit (unfit : Unfit inputs) (queue : IngestQueue) (now : UInt64) :
    ∃ detail, submit queue now inputs = (queue, .error (.badRequest detail)) := by
  cases inputs with
  | nil => exact ⟨_, rfl⟩
  | cons first rest =>
      have malformed := unfit.resolve_left (List.cons_ne_nil first rest)
      obtain ⟨detail, refused⟩ := EventInput.mapM_toEvent_of_not_isFit malformed now
      simp only [submit, List.isEmpty_cons, Bool.false_eq_true, if_false, refused]
      exact ⟨detail, rfl⟩

theorem mapM_of_not_unfit (fit : ¬Unfit inputs) (now : UInt64) :
    inputs.isEmpty = false ∧
      inputs.mapM (EventInput.toEvent now) = .ok (inputs.map (EventInput.event now)) := by
  rw [Unfit, not_or, not_exists] at fit
  obtain ⟨inhabited, fit⟩ := fit
  exact ⟨by simpa using inhabited, EventInput.mapM_toEvent_of_isFit
    (fun input member => Classical.byContradiction fun unfit => fit input ⟨member, unfit⟩) now⟩

theorem submit_of_free (fit : ¬Unfit inputs) (isOpen : queue.isOpen = true)
    (room : 0 < queue.free) (now : UInt64) :
    submit queue now inputs =
      (queue.extend ((inputs.map (EventInput.event now)).take queue.free),
        .ok
          { accepted := min inputs.length queue.free
            rejected := inputs.length - min inputs.length queue.free }) := by
  obtain ⟨inhabited, events⟩ := mapM_of_not_unfit fit now
  have published := publishAll_of_isOpen isOpen 0 (inputs.map (EventInput.event now))
  rw [List.length_map, Nat.zero_add] at published
  by_cases all : inputs.length ≤ queue.free
  · rw [if_pos all] at published
    simp [submit, inhabited, events, published]
  · rw [if_neg all] at published
    have taken : 0 < min inputs.length queue.free := by omega
    simp [submit, inhabited, events, published, taken]

theorem submit_of_not_free (fit : ¬Unfit inputs)
    (shut : ¬(queue.isOpen = true ∧ 0 < queue.free)) (now : UInt64) :
    ∃ cause, submit queue now inputs = (queue, .error (.hub cause)) ∧
      (ApiError.hub cause).status = 503 := by
  obtain ⟨inhabited, events⟩ := mapM_of_not_unfit fit now
  have nonempty : inputs ≠ [] := fun empty => fit (.inl empty)
  cases isOpen : queue.isOpen with
  | true =>
      have full : queue.free = 0 := Nat.eq_zero_of_not_pos fun room => shut ⟨isOpen, room⟩
      have published := publishAll_of_isOpen isOpen 0 (inputs.map (EventInput.event now))
      refine ⟨.ingestFull, ?_, rfl⟩
      simp [submit, inhabited, events, published, full, nonempty, IngestQueue.extend_nil]
  | false =>
      refine ⟨.ingestClosed, ?_, rfl⟩
      obtain ⟨first, rest, rfl⟩ := List.exists_cons_of_ne_nil nonempty
      have published := publishAll_of_closed isOpen 0 (first.event now)
        (rest.map (EventInput.event now))
      simp [submit, events, published]

end Ingest

namespace Node

variable {node : Node} {request : Http.Request}

/-- The request shows a token that an administrator was given and that is still good. -/
def ShowsAdmin (node : Node) (request : Http.Request) : Prop :=
  ∃ credential identity,
    (request.header? "authorization").bind Credential.ofAuthorization = some credential ∧
      node.tokens.validate node.now credential = .ok identity ∧
      Identity.adminScope ∈ identity.scopes

theorem showsAdmin_iff :
    node.ShowsAdmin request ↔ ∃ identity, node.requireAdmin request = .ok identity := by
  rw [requireAdmin]
  constructor
  · rintro ⟨credential, identity, shown, valid, isAdmin⟩
    have listed : identity.scopes.contains Identity.adminScope = true :=
      NameSet.contains_iff.2 isAdmin
    simp [shown, valid, Except.bind, Except.map, Identity.requireScope, Identity.hasScope, listed]
  · rintro ⟨identity, admitted⟩
    split at admitted
    · cases admitted
    · rename_i credential shown
      cases valid : node.tokens.validate node.now credential with
      | error cause =>
          rw [valid] at admitted
          cases admitted
      | ok found =>
          refine ⟨credential, found, shown, valid, NameSet.contains_iff.1 ?_⟩
          cases listed : found.scopes.contains Identity.adminScope with
          | true => rfl
          | false =>
              simp [valid, Except.bind, Except.map, Identity.requireScope, Identity.hasScope,
                listed] at admitted

/-- What comes of a submitted batch: the answer, and what the queue has taken. -/
structure Ingests (node : Node) (inputs : List EventInput) (next : Node)
    (response : Http.Response) : Prop where
  malformed : response.status = 400 ↔ Ingest.Unfit inputs
  accepted : response.status = 202 ↔
    ¬Ingest.Unfit inputs ∧ node.live.ingest.isOpen = true ∧ 0 < node.live.ingest.free
  refused : response.status = 503 ↔
    ¬Ingest.Unfit inputs ∧ ¬(node.live.ingest.isOpen = true ∧ 0 < node.live.ingest.free)
  taken : response.status = 202 → ∃ a r,
    response = { Http.Response.ofJson 202 (Ingest.Receipt.json ⟨a, r⟩) with
      requestId := response.requestId } ∧
    a + r = inputs.length ∧ 1 ≤ a ∧ a = min inputs.length node.live.ingest.free ∧
    next.live.ingest =
      node.live.ingest.extend ((inputs.map (EventInput.event node.live.stamp)).take a)
  unchanged : response.status ≠ 202 → next.live.ingest = node.live.ingest

theorem live_ingest_of_stranger (stranger : ¬node.ShowsAdmin request) :
    (node.ingest request).1.live = node.live := by
  rw [Node.ingest]
  split
  · rfl
  · split
    · rfl
    · rename_i identity admitted
      exact absurd (showsAdmin_iff.2 ⟨identity, admitted⟩) stranger

theorem ingests_ingest (shown : node.ShowsAdmin request) {inputs : List EventInput}
    (read : Ingest.readBody request = .ok inputs) :
    node.Ingests inputs (node.ingest request).1 (node.ingest request).2 := by
  obtain ⟨identity, admitted⟩ := showsAdmin_iff.1 shown
  by_cases unfit : Ingest.Unfit inputs
  · obtain ⟨detail, submitted⟩ :=
      Ingest.submit_of_unfit unfit node.live.ingest node.live.stamp
    have ingested : node.ingest request = (node, (ApiError.badRequest detail).response) := by
      simp only [Node.ingest, read, admitted, submitted]
    have status : (ApiError.badRequest detail).response.status = 400 := rfl
    rw [ingested]
    exact ⟨by simp [status, unfit], by simp [status, unfit], by simp [status, unfit],
      by simp [status], fun _ => rfl⟩
  · by_cases free : node.live.ingest.isOpen = true ∧ 0 < node.live.ingest.free
    · let slots := node.live.ingest.free
      let queue := node.live.ingest.extend
        ((inputs.map (EventInput.event node.live.stamp)).take slots)
      let receipt : Ingest.Receipt :=
        ⟨min inputs.length slots, inputs.length - min inputs.length slots⟩
      have ingested : node.ingest request =
          ({ node with live := { node.live with ingest := queue } },
            .ofJson 202 receipt.json) := by
        simp only [Node.ingest, read, admitted,
          Ingest.submit_of_free unfit free.1 free.2 node.live.stamp]
        rfl
      have status : (Http.Response.ofJson 202 receipt.json).status = 202 := rfl
      have nonempty : 0 < inputs.length :=
        List.length_pos_iff.2 fun empty => unfit (.inl empty)
      have room : 0 < slots := free.2
      rw [ingested]
      refine ⟨by simp [status, unfit], by simp [status, unfit, free], by simp [status, free],
        fun _ => ⟨receipt.accepted, receipt.rejected, rfl, ?_, ?_, rfl, ?_⟩, by simp [status]⟩
      · exact Nat.add_sub_cancel' (Nat.min_le_left _ _)
      · exact Nat.le_min.2 ⟨nonempty, room⟩
      · refine congrArg node.live.ingest.extend (List.take_eq_take_iff.2 ?_)
        have accepted : receipt.accepted = min inputs.length slots := rfl
        rw [List.length_map, accepted]
        omega
    · obtain ⟨cause, submitted, unavailable⟩ :=
        Ingest.submit_of_not_free unfit free node.live.stamp
      have ingested : node.ingest request = (node, (ApiError.hub cause).response) := by
        simp only [Node.ingest, read, admitted, submitted]
      have status : (ApiError.hub cause).response.status = 503 := unavailable
      rw [ingested]
      exact ⟨by simp [status, unfit], by simp [status, free], by simp [status, unfit, free],
        by simp [status], fun _ => rfl⟩

theorem dispatch_of_posted (posted : request.method = "POST")
    (path : request.path = "/api/events") : node.dispatch request = node.ingest request := by
  have endpoint : endpoint? request.path = some .events := by
    rw [path]
    rfl
  have accepts : Endpoint.events.accepts request.method = true := by
    rw [posted]
    rfl
  have whole (response : Http.Response) : response.forMethod request.method = response := by
    rw [Http.Response.forMethod, posted, if_neg (by decide)]
  simp only [dispatch, endpoint, accepts, if_true, serve, whole]

theorem live_dispatch_of_stranger (stranger : ¬node.ShowsAdmin request) :
    (node.dispatch request).1.live = node.live := by
  rw [dispatch]
  split
  · rfl
  · rename_i endpoint _
    split
    · cases endpoint with
      | events => exact live_ingest_of_stranger stranger
      | _ => rfl
    · rfl

/-- A batch is taken from its front as far as there is room, or it is not taken at all, and then the
queue is what it was. Without an administrator's token no request changes the queue. -/
theorem respond_ingests (node : Node) (freshId : String) (request : Http.Request) :
    (∀ inputs, request.method = "POST" → request.path = "/api/events" →
      node.ShowsAdmin request → Ingest.readBody request = .ok inputs →
        node.Ingests inputs (node.respond freshId request).1 (node.respond freshId request).2) ∧
      (¬node.ShowsAdmin request →
        (node.respond freshId request).1.live.ingest = node.live.ingest) := by
  constructor
  · intro inputs posted path shown read
    let begun : Node :=
      { node with requests :=
          { node.requests with activeRequests := node.requests.activeRequests + 1 } }
    have shownToo : begun.ShowsAdmin request := shown
    have ingests := ingests_ingest shownToo read
    rw [← dispatch_of_posted posted path] at ingests
    refine ⟨ingests.malformed, ingests.accepted, ingests.refused, fun status => ?_,
      ingests.unchanged⟩
    obtain ⟨a, r, response, split, positive, isMin, queue⟩ := ingests.taken status
    refine ⟨a, r, ?_, split, positive, isMin, queue⟩
    exact congrArg (fun answer : Http.Response =>
      { answer with requestId := (node.respond freshId request).2.requestId }) response
  · intro stranger
    exact congrArg LiveHub.ingest (live_dispatch_of_stranger (by exact stranger))

/-- There is room for one event. -/
def narrow : Node where
  live := { LiveHub.start {} with ingest := .ofCapacity 1 }
  tokens := ⟨Table.insert ∅ (Digest.ofText "key")
    { identity := { subject := "s", scopes := .ofList [Identity.adminScope] }, expiresAt := none }⟩
  now := 0

def twoEvents : Http.Request where
  method := "POST"
  path := "/api/events"
  headers := [("Authorization", "Bearer key"), ("Content-Type", "application/json")]
  body := "[[\"a\",\"w\",null,null],[\"b\",\"w\",null,null]]"

theorem readBody_twoEvents :
    Ingest.readBody twoEvents = .ok [⟨"a", "w", .null, none⟩, ⟨"b", "w", .null, none⟩] := by
  have typed : twoEvents.header? "content-type" = some "application/json" := by decide
  have announced : Http.announcesJson "application/json".toList = true := by decide
  have short : ¬Ingest.bodyLimit < twoEvents.body.utf8ByteSize := by decide
  have read : Json.read? twoEvents.body.toList =
      some (.array [.array [.text "a", .text "w", .null, .null],
        .array [.text "b", .text "w", .null, .null]], []) := rfl
  rw [Ingest.readBody, typed, if_neg short, Ingest.decodeBody, read]
  simp only [Option.any_some, announced]
  rfl

theorem respond_ingests_narrow :
    (narrow.respond "r" twoEvents).2.status = 202 ∧
      (narrow.respond "r" twoEvents).1.live.ingest.waiting =
        [⟨"a", "w", .null, narrow.live.stamp⟩] := by
  have credential : (twoEvents.header? "authorization").bind Credential.ofAuthorization =
      some ⟨"key"⟩ := by decide
  have valid : narrow.tokens.validate narrow.now ⟨"key"⟩ =
      .ok { subject := "s", scopes := .ofList [Identity.adminScope] } := by
    simp [TokenTable.validate, narrow]
  have shown : narrow.ShowsAdmin twoEvents :=
    ⟨_, _, credential, valid, NameSet.mem_ofList.2 List.mem_cons_self⟩
  have ingests := (respond_ingests narrow "r" twoEvents).1 _ rfl rfl shown readBody_twoEvents
  have fit : ¬Ingest.Unfit [⟨"a", "w", .null, none⟩, ⟨"b", "w", .null, none⟩] := by
    simp [Ingest.Unfit, EventInput.IsFit]
  have status := ingests.accepted.2 ⟨fit, rfl, by decide⟩
  obtain ⟨a, r, -, -, -, isMin, queue⟩ := ingests.taken status
  have single : a = 1 := isMin
  rw [queue, single]
  exact ⟨status, rfl⟩

end Node

end EventHub
