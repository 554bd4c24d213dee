import EventHub.Hub.Protocol
import EventHub.Node.Ingest
import EventHub.Proofs.Json.Canonical
import EventHub.Proofs.Json.Fields
import EventHub.Proofs.Json.FirstMember

/-!
Events on their way from a producer's request to the text that clients receive. The envelope nests
no deeper than a request may, its members are what the producer gave, and it is never taken for a
message of the hub's own.
-/

namespace EventHub

namespace EventInput

variable {json : Json} {input : EventInput}

theorem payload_of_ofJson? (decoded : ofJson? json = some input) :
    input.payload = .null ∨ ∃ fields, json.fields? fieldNames = some fields ∧
      ∃ field ∈ fields, input.payload = field.2.canonical := by
  simp only [ofJson?, Option.bind_eq_bind, Option.bind_eq_some_iff] at decoded
  obtain ⟨fields, fieldsEq, _, _, _, _, payload, payloadEq, _, _, made⟩ := decoded
  split at made
  · cases made
    rw [Fields.default?] at payloadEq
    split at payloadEq
    · rename_i value found
      obtain ⟨before, after, split, -⟩ := List.lookup_eq_some_iff.1 found
      refine .inr ⟨fields, fieldsEq, ("payload", value), ?_, (Option.some.inj payloadEq).symm⟩
      rw [split]
      exact List.mem_append_right _ List.mem_cons_self
    · exact .inl (Option.some.inj payloadEq).symm
  · cases made

theorem canonical_payload (decoded : ofJson? json = some input) :
    input.payload.canonical = input.payload := by
  rcases payload_of_ofJson? decoded with null | ⟨_, _, field, _, payload⟩
  · rw [null]
    rfl
  · rw [payload, Json.canonical_canonical]

theorem readable_payload {depth : Nat} (decoded : ofJson? json = some input)
    (readable : json.readable (depth + 1) = true) : input.payload.readable depth = true := by
  rcases payload_of_ofJson? decoded with null | ⟨_, fields, _, member, payload⟩
  · rw [null]
    rfl
  · rw [payload]
    exact Json.readable_canonical (Json.readable_of_fields? fields readable member)

theorem exists_of_mem_mapM {items : List Json} {inputs : List EventInput}
    (decoded : items.mapM ofJson? = some inputs) (submitted : input ∈ inputs) :
    ∃ item ∈ items, ofJson? item = some input := by
  induction items generalizing inputs with
  | nil =>
      cases decoded
      cases submitted
  | cons item rest ih =>
      simp only [List.mapM_cons, Option.bind_eq_bind, Option.bind_eq_some_iff] at decoded
      obtain ⟨first, decodedFirst, later, decodedLater, same⟩ := decoded
      cases same
      rcases List.mem_cons.1 submitted with rfl | submitted
      · exact ⟨item, List.mem_cons_self, decodedFirst⟩
      · obtain ⟨source, member, decoded⟩ := ih decodedLater submitted
        exact ⟨source, List.mem_cons_of_mem _ member, decoded⟩

/-- An event stands in a body by itself or as an item of a list; either way its payload is at least
one container deep. -/
theorem payload_of_listOfJson? {inputs : List EventInput} {depth : Nat}
    (decoded : listOfJson? json = some inputs) (readable : json.readable (depth + 1) = true)
    (submitted : input ∈ inputs) :
    input.payload.canonical = input.payload ∧ input.payload.readable depth = true := by
  rw [listOfJson?] at decoded
  split at decoded
  · rename_i listed
    cases decoded
    obtain ⟨items, itemsEq, decoded⟩ := Option.bind_eq_some_iff.1 listed
    obtain ⟨item, member, decodedItem⟩ := exists_of_mem_mapM decoded submitted
    refine ⟨canonical_payload decodedItem, ?_⟩
    cases json with
    | array others =>
        cases itemsEq
        rw [Json.readable_array_iff] at readable
        have within := Json.readable_mono (Nat.le_succ depth) (readable item member)
        exact readable_payload decodedItem within
    | _ => cases itemsEq
  · obtain ⟨single, decodedSingle, rfl⟩ := Option.map_eq_some_iff.1 decoded
    cases List.mem_singleton.1 submitted
    exact ⟨canonical_payload decodedSingle, readable_payload decodedSingle readable⟩

theorem toEvent_eq_ok {now : UInt64} {event : Event} (made : input.toEvent now = .ok event) :
    event = ⟨input.eventType, input.cluster, input.payload, input.producedAt.getD now⟩ := by
  rw [toEvent] at made
  split at made
  · cases made
  · split at made
    · cases made
    · exact (Except.ok.inj made).symm

end EventInput

theorem Ingest.payload_of_decodeBody {body : String} {inputs : List EventInput}
    (decoded : decodeBody body = .ok inputs) {input : EventInput} (submitted : input ∈ inputs) :
    input.payload.canonical = input.payload ∧
      input.payload.readable (Json.depthLimit - 1) = true := by
  rw [decodeBody] at decoded
  split at decoded
  · cases decoded
  · rename_i json rest _
    split at decoded
    · cases decoded
    · rename_i fits
      have readable : json.readable Json.depthLimit = true := by simpa using fits
      split at decoded
      · cases decoded
      · rename_i listed
        split at decoded
        · cases decoded
          exact EventInput.payload_of_listOfJson? listed readable submitted
        · cases decoded

namespace Event

/-- What a client finds in the envelope of an event, in the order of the names. -/
def wireForm (event : Event) : Json :=
  .record
    [("cluster_id", .text event.cluster), ("event_type", .text event.eventType),
      ("payload", event.payload), ("produced_at", .natural event.producedAt),
      ("type", .text "event")]

theorem canonical_envelope {event : Event}
    (canonical : event.payload.canonical = event.payload) :
    event.envelope.canonical = event.wireForm := by
  simp only [envelope, wireForm, Json.record, List.map_cons, List.map_nil, Json.natural,
    Json.canonical, Json.canonicalMembers, canonical, Json.setMember, String.reduceLT, if_true,
    if_false]

theorem decode?_toPayload {event : Event} (canonical : event.payload.canonical = event.payload)
    (readable : event.payload.readable (Json.depthLimit - 1) = true)
    (integral : event.payload.integral = true) :
    Json.decode? event.toPayload = some event.wireForm := by
  have readableEnvelope : event.envelope.readable Json.depthLimit = true := by
    refine Json.readable_record_iff.2 ?_
    simp only [List.forall_mem_cons]
    exact ⟨rfl, rfl, rfl, readable, rfl, List.forall_mem_nil _⟩
  have exact : event.envelope.exact = true := by
    have exactPayload := Json.exact_of_readable readable integral
    simp [envelope, Json.record, Json.exact, Json.exactMembers, exactPayload, Json.natural,
      Json.Number.isInteger]
  rw [toPayload, Json.decode?_print readableEnvelope exact, canonical_envelope canonical]

/-- Whatever its payload, an envelope is no message of the hub's. -/
theorem ofPayload?_toPayload (event : Event) :
    ServerMessage.ofPayload? event.toPayload = none := by
  rw [ServerMessage.ofPayload?]
  cases parsed : Json.parse? event.toPayload with
  | none => rfl
  | some json =>
      have exact : (Json.text "event").exact = true := rfl
      obtain ⟨others, rfl⟩ := Json.eq_object_of_parse?_record exact parsed
      rw [Option.bind_some, ServerMessage.ofJson?]
      cases tagged : (Json.object ((some "type", .text "event") :: others)).tagged? with
      | none => rfl
      | some found =>
          obtain ⟨tag, content⟩ := found
          cases Json.eq_of_tagged? tagged
          rfl

end Event

/-- Of every event that a readable body submits, the envelope holds what the producer gave: a
decoder takes it under the limit that the body kept to, and finds under each name the event's own
value, unless a double is among them. No envelope decodes as a message of the hub's. -/
theorem Ingest.event_survives {body : String} {inputs : List EventInput}
    (decoded : decodeBody body = .ok inputs) {input : EventInput} (submitted : input ∈ inputs)
    {now : UInt64} {event : Event} (made : input.toEvent now = .ok event) :
    event = ⟨input.eventType, input.cluster, input.payload, input.producedAt.getD now⟩ ∧
      (event.payload.integral = true → Json.decode? event.toPayload = some event.wireForm) ∧
      ServerMessage.ofPayload? event.toPayload = none := by
  have event_eq := EventInput.toEvent_eq_ok made
  have payload_eq : event.payload = input.payload := by rw [event_eq]
  obtain ⟨canonical, readable⟩ := payload_of_decodeBody decoded submitted
  rw [← payload_eq] at canonical readable
  exact ⟨event_eq, Event.decode?_toPayload canonical readable, event.ofPayload?_toPayload⟩

/-- An event whose payload poses as a message of the hub's. -/
def Event.posing : Event :=
  ⟨"alert", "west", .record [("a", .array [.number (.negSucc 6)]), ("type", .text "ping")], 5⟩

/-- The producer may write the names out of order and one of them twice. -/
theorem Ingest.event_survives_posing :
    decodeBody "[[\"alert\",\"west\",\x7b\"type\":1,\"a\":[-7],\"type\":\"ping\"\x7d,null]]" =
        .ok [⟨"alert", "west", Event.posing.payload, none⟩] ∧
      EventInput.toEvent 5 ⟨"alert", "west", Event.posing.payload, none⟩ = .ok Event.posing ∧
      Event.posing.payload.integral = true ∧
      Json.decode? Event.posing.toPayload = some Event.posing.wireForm ∧
      ServerMessage.ofPayload? Event.posing.toPayload = none := by
  have read : Json.read?
      "[[\"alert\",\"west\",\x7b\"type\":1,\"a\":[-7],\"type\":\"ping\"\x7d,null]]".toList =
        some (.array [.array [.text "alert", .text "west",
          .object [(some "type", .number (.natural 1)), (some "a", .array [.number (.negSucc 6)]),
            (some "type", .text "ping")], .null]], []) := rfl
  have decoded :
      decodeBody "[[\"alert\",\"west\",\x7b\"type\":1,\"a\":[-7],\"type\":\"ping\"\x7d,null]]" =
        .ok [⟨"alert", "west", Event.posing.payload, none⟩] := by
    rw [decodeBody, read]
    rfl
  have made : EventInput.toEvent 5 ⟨"alert", "west", Event.posing.payload, none⟩ =
      .ok Event.posing := rfl
  have integral : Event.posing.payload.integral = true := rfl
  have survives := event_survives decoded List.mem_cons_self made
  exact ⟨decoded, made, integral, survives.2.1 integral, survives.2.2⟩

end EventHub
