import Mathlib.Data.List.Induction
import EventHub.Proofs.Relay.Pump

/-!
What one direction of a relay makes of a whole source. The frames that go out, and how the pump
ends, follow from what the source has before its first close frame or failure and from how much the
sink takes; a frame that crosses to the hub's leg and back is the same frame.
-/

namespace EventHub

namespace Pump

variable {κ ν : Type} {code : κ → ν} {room : Option Nat} {items rest : List (Item κ)}
  {frame : Frame κ} {out : Frame ν} {frames : List (Frame ν)} {ending : PumpEnd}

/-- The frames that come in before the source fails or ends. -/
def heard : List (Item κ) → List (Frame κ)
  | [] | .failure :: _ => []
  | .frame frame :: rest => frame :: heard rest

/-- What the sink is to be handed, if it takes everything. -/
def offered (code : κ → ν) (items : List (Item κ)) : List (Frame ν) :=
  (Frame.throughClose (heard items)).filterMap (Frame.carried? code)

/-- Of these frames the sink takes the first, as far as its room goes. -/
def taken (room : Option Nat) (frames : List (Frame ν)) : List (Frame ν) :=
  room.elim frames frames.take

/-- The sink is handed a frame that it has no room for. -/
def overruns (room : Option Nat) (frames : List (Frame ν)) : Bool :=
  room.any (· < frames.length)

/-- What comes first: the sink fails, a close frame is out, or the source fails or ends. -/
def endOf (code : κ → ν) (room : Option Nat) (items : List (Item κ)) : PumpEnd :=
  if overruns room (offered code items) then .sinkLost
  else if (heard items).any Frame.isClose then .closed
  else .sourceLost

structure Transparent (code : κ → ν) (room : Option Nat) (items : List (Item κ))
    (forwarded : List (Frame ν)) (ending : PumpEnd) : Prop where
  /-- In order, and each once. -/
  taken : forwarded = taken room (offered code items)
  /-- Nothing goes out after a close frame. -/
  last : ∀ before reason after, forwarded = before ++ Frame.close reason :: after → after = []
  closed : ending = .closed ↔ ∃ reason, Frame.close reason ∈ forwarded
  sinkLost : ending = .sinkLost ↔
    ∃ refused later, offered code items = forwarded ++ refused :: later
  sourceLost : ending = .sourceLost ↔
    forwarded = offered code items ∧ ∀ reason, Frame.close reason ∉ heard items

/-! A source, one item after the other. -/

theorem offered_frame (code : κ → ν) (frame : Frame κ) (rest : List (Item κ)) :
    offered code (.frame frame :: rest) =
      (frame.carried? code).toList ++ if frame.isClose then [] else offered code rest := by
  rw [offered, heard, Frame.throughClose]
  cases carries : frame.carried? code <;> cases frame.isClose <;> simp [carries, offered]

theorem isClose_of_kept (kept : frame.carried? code = none) : frame.isClose = false := by
  cases frame with
  | ping _ | pong _ => rfl
  | text _ | binary _ | close _ => cases kept

theorem taken_nil (room : Option Nat) :
    taken room ([] : List (Frame ν)) = [] ∧ overruns room ([] : List (Frame ν)) = false := by
  cases room <;> simp [taken, overruns]

theorem taken_cons (more : room ≠ some 0) (out : Frame ν) (frames : List (Frame ν)) :
    taken room (out :: frames) = out :: taken (room.map Nat.pred) frames ∧
      overruns room (out :: frames) = overruns (room.map Nat.pred) frames := by
  rcases room with _ | _ | limit
  · exact ⟨rfl, rfl⟩
  · exact absurd rfl more
  · simp [taken, overruns]

theorem taken_of_silent (silent : heard items = []) :
    (taken room (offered code items), endOf code room items) = ([], .sourceLost) := by
  have nothing : offered code items = [] := by rw [offered, silent]; rfl
  rw [endOf, nothing, silent, (taken_nil room).1, (taken_nil room).2]
  rfl

theorem run_eq (room : Option Nat) (items : List (Item κ)) :
    run (Frame.relayed? code) room items =
      (taken room (offered code items), endOf code room items) := by
  -- Every frame that the sink takes leaves it one place less for the others.
  induction items generalizing room with
  | nil => exact (taken_of_silent rfl).symm
  | cons item rest ih =>
      cases item with
      | failure => exact (taken_of_silent rfl).symm
      | frame frame =>
          rw [run, Frame.relayed?_eq, endOf, offered_frame, heard, List.any_cons]
          cases carries : frame.carried? code with
          | none =>
              rw [isClose_of_kept carries]
              exact ih room
          | some out =>
              by_cases full : room = some 0
              · subst full
                simp [taken, overruns]
              · rw [Option.toList_some, List.singleton_append, (taken_cons full _ _).1,
                  (taken_cons full _ _).2]
                cases frame.isClose with
                | true => simp [full, taken_nil]
                | false => simp [full, ih, endOf]

/-! What goes out. -/

theorem taken_of_fits (fits : overruns room frames = false) : taken room frames = frames := by
  rcases room with _ | limit
  · rfl
  · exact List.take_of_length_le (by simpa [overruns] using fits)

theorem exists_refused_of_overruns (short : overruns room frames = true) :
    ∃ refused later, frames = taken room frames ++ refused :: later := by
  rcases room with _ | limit
  · cases short
  · have inside : limit < frames.length := by simpa [overruns] using short
    refine ⟨frames[limit], frames.drop (limit + 1), ?_⟩
    rw [taken, Option.elim_some, List.getElem_cons_drop, List.take_append_drop]

theorem any_isClose_iff :
    frames.any Frame.isClose = true ↔ ∃ reason, Frame.close reason ∈ frames := by
  simp only [List.any_eq_true, Frame.isClose_iff]
  constructor
  · rintro ⟨_, member, reason, rfl⟩
    exact ⟨reason, member⟩
  · rintro ⟨reason, member⟩
    exact ⟨_, member, reason, rfl⟩

theorem any_isClose_offered :
    (offered code items).any Frame.isClose = (heard items).any Frame.isClose := by
  induction items with
  | nil => rfl
  | cons item rest ih =>
      cases item with
      | failure => rfl
      | frame frame =>
          rw [offered_frame, heard, List.any_append, List.any_cons]
          cases carries : frame.carried? code with
          | none => simp [isClose_of_kept carries, ih]
          | some out =>
              rw [← Frame.isClose_of_carried? carries]
              cases close : out.isClose <;> simp [close, ih]

theorem offered_last {before after : List (Frame ν)} {reason : Option (ν × String)}
    (offers : offered code items = before ++ .close reason :: after) : after = [] := by
  induction items generalizing before with
  | nil => simp [offered, heard, Frame.throughClose] at offers
  | cons item rest ih =>
      cases item with
      | failure => simp [offered, heard, Frame.throughClose] at offers
      | frame frame =>
          rw [offered_frame] at offers
          cases carries : frame.carried? code with
          | none =>
              rw [carries, isClose_of_kept carries] at offers
              exact ih offers
          | some out =>
              rw [carries, ← Frame.isClose_of_carried? carries] at offers
              cases before with
              | nil =>
                  obtain ⟨rfl, rfl⟩ := List.cons_eq_cons.1 offers
                  rfl
              | cons first before =>
                  obtain ⟨rfl, later⟩ := List.cons_eq_cons.1 offers
                  cases close : out.isClose with
                  | true => simp [close] at later
                  | false =>
                      rw [close] at later
                      exact ih later

theorem transparent_of_overruns (short : overruns room (offered code items) = true) :
    Transparent code room items (taken room (offered code items)) .sinkLost := by
  obtain ⟨refused, later, offers⟩ := exists_refused_of_overruns short
  -- A close frame among those taken would not be the last one offered.
  have goesOn (before reason after) :
      taken room (offered code items) ≠ before ++ .close reason :: after := by
    intro sent
    rw [sent, List.append_assoc, List.cons_append] at offers
    cases (List.append_eq_nil_iff.1 (offered_last offers)).2
  refine ⟨rfl, fun before reason after sent => absurd sent (goesOn before reason after),
    iff_of_false nofun ?_, iff_of_true rfl ⟨refused, later, offers⟩, iff_of_false nofun ?_⟩
  · rintro ⟨reason, member⟩
    obtain ⟨before, after, sent⟩ := List.append_of_mem member
    exact goesOn before reason after sent
  · rintro ⟨all, -⟩
    rw [all] at offers
    simp at offers

theorem transparent_of_fits (fits : overruns room (offered code items) = false) :
    Transparent code room items (taken room (offered code items))
      (if (heard items).any Frame.isClose then .closed else .sourceLost) := by
  have all := taken_of_fits fits
  have offersClose :
      (∃ reason, Frame.close reason ∈ offered code items) ↔
        (heard items).any Frame.isClose = true := by
    rw [← any_isClose_iff, any_isClose_offered]
  have notRefused : ¬∃ refused later,
      offered code items = taken room (offered code items) ++ refused :: later := by
    rw [all]
    simp
  refine ⟨rfl, fun before reason after sent => ?_, ?_, iff_of_false ?_ notRefused, ?_⟩
  · rw [all] at sent
    exact offered_last sent
  · rw [all, offersClose]
    split <;> simp [*]
  · split <;> nofun
  · rw [all, ← not_exists, ← any_isClose_iff]
    split <;> simp [*]

theorem transparent_run (code : κ → ν) (room : Option Nat) (items : List (Item κ)) :
    Transparent code room items (run (Frame.relayed? code) room items).1
      (run (Frame.relayed? code) room items).2 := by
  rw [run_eq]
  cases short : overruns room (offered code items) with
  | true =>
      rw [endOf, if_pos short]
      exact transparent_of_overruns short
  | false =>
      rw [endOf, if_neg (Bool.eq_false_iff.1 short)]
      exact transparent_of_fits short

/-! The pump of a relay at work. -/

/-- A pump after these happenings: items that come in, and moves of its own. -/
def drive (convert : Frame κ → Option (Relayed ν)) (history : List (Item κ ⊕ PumpEvent)) :
    Pump κ ν :=
  history.foldl (fun pump happening => happening.elim pump.receive (pump.step convert)) {}

def arrived (history : List (Item κ ⊕ PumpEvent)) : List (Item κ) :=
  history.filterMap Sum.getLeft?

theorem faithful_drive (code : κ → ν) (history : List (Item κ ⊕ PumpEvent)) :
    Faithful code (arrived history) (drive (Frame.relayed? code) history) := by
  induction history using List.reverseRecOn with
  | nil => exact faithful_start code
  | append_singleton history happening ih =>
      rw [drive, List.foldl_append, ← drive, arrived, List.filterMap_append, ← arrived]
      cases happening with
      | inl item => exact ih.receive item
      | inr event =>
          rw [List.filterMap_cons_none rfl, List.filterMap_nil, List.append_nil]
          exact ih.step event

theorem Plain.heard (plain : Plain items) (rest : List (Item κ)) :
    ∃ frames, Pump.heard (items ++ rest) = frames ++ Pump.heard rest ∧
      items.filterMap Item.frame? = frames ∧ ∀ frame ∈ frames, frame.isClose = false := by
  induction items with
  | nil => exact ⟨[], rfl, rfl, nofun⟩
  | cons item items ih =>
      obtain ⟨⟨frame, rfl, goesOn⟩, plainRest⟩ := List.forall_mem_cons.1 plain
      obtain ⟨frames, heard, read, later⟩ := ih plainRest
      refine ⟨frame :: frames, ?_, ?_, List.forall_mem_cons.2 ⟨goesOn, later⟩⟩
      · rw [List.cons_append, Pump.heard, heard, List.cons_append]
      · rw [List.filterMap_cons_some (show Item.frame? (.frame frame) = some frame from rfl), read]

/-- What does not end a pump is offered whole, before the rest. -/
theorem Plain.offered (plain : Plain items) (code : κ → ν) (rest : List (Item κ)) :
    Pump.offered code (items ++ rest) = carried code items ++ Pump.offered code rest ∧
      (Pump.heard (items ++ rest)).any Frame.isClose =
        (Pump.heard rest).any Frame.isClose := by
  obtain ⟨frames, heard, read, goesOn⟩ := plain.heard rest
  have none : frames.any Frame.isClose = false := by simpa using goesOn
  rw [Pump.offered, carried, heard, read, Frame.throughClose_append goesOn,
    List.filterMap_append, List.any_append, none]
  exact ⟨rfl, rfl⟩

/-- However a pump has ended, a run of it over what has come in ends so too. The sink that failed
may have the frame in its hands that the run leaves out. -/
theorem exists_run_of_ended {history : List (Item κ ⊕ PumpEvent)}
    (ended : (drive (Frame.relayed? code) history).ended? = some ending) :
    ∃ room, (run (Frame.relayed? code) room (arrived history)).2 = ending ∧
      ((drive (Frame.relayed? code) history).sent =
          (run (Frame.relayed? code) room (arrived history)).1 ∨
        ending = .sinkLost ∧ ∃ broken, (drive (Frame.relayed? code) history).sent =
          (run (Frame.relayed? code) room (arrived history)).1 ++ [broken]) := by
  obtain ⟨read, isArrived, stands⟩ := faithful_drive code history
  rw [ended?_eq_some_iff.1 ended] at stands
  generalize (drive (Frame.relayed? code) history).unread = unread,
    (drive (Frame.relayed? code) history).sent = sent at isArrived stands ⊢
  -- The sink has room for what went before the frame.
  have refuses {read : List (Item κ)} {frame : Frame κ} {out : Frame ν} (plain : Plain read)
      (carries : frame.carried? code = some out) :
      run (Frame.relayed? code) (some (carried code read).length)
        (read ++ .frame frame :: unread) = (carried code read, .sinkLost) := by
    rw [run_eq, endOf, (plain.offered code _).1, offered_frame, carries]
    simp [taken, overruns]
  cases stands with
  | closed plain =>
      rw [List.append_assoc, List.singleton_append] at isArrived
      refine ⟨none, ?_⟩
      rw [isArrived, run_eq, endOf, (plain.offered code _).1, (plain.offered code _).2,
        offered_frame]
      simp [taken, overruns, heard, Frame.isClose, Frame.carried?]
  | sourceLost plain =>
      rw [List.append_assoc, List.singleton_append] at isArrived
      refine ⟨none, ?_⟩
      rw [isArrived, run_eq, endOf, (plain.offered code _).1, (plain.offered code _).2]
      simp [taken, overruns, heard, offered, Frame.throughClose]
  | @refused read _ _ plain carries =>
      rw [List.append_assoc, List.singleton_append] at isArrived
      refine ⟨some (carried code read).length, ?_⟩
      rw [isArrived, refuses plain carries]
      exact ⟨rfl, .inl rfl⟩
  | @broken read _ out plain carries =>
      rw [List.append_assoc, List.singleton_append] at isArrived
      refine ⟨some (carried code read).length, ?_⟩
      rw [isArrived, refuses plain carries]
      exact ⟨rfl, .inr ⟨rfl, out, rfl⟩⟩

/-- A pump that has the whole source before it can be moved to where a run over it ends. -/
theorem exists_events_of_run (code : κ → ν) (room : Option Nat) (items : List (Item κ))
    (sent : List (Frame ν)) :
    ∃ events : List PumpEvent,
      let pump : Pump κ ν :=
        events.foldl (step (Frame.relayed? code)) { unread := items ++ [.failure], sent }
      pump.sent = sent ++ (run (Frame.relayed? code) room items).1 ∧
        pump.ended? = some (run (Frame.relayed? code) room items).2 := by
  -- The pump makes the moves that the run makes in one, frame by frame.
  induction items generalizing room sent with
  | nil => exact ⟨[.reads], (List.append_nil sent).symm, rfl⟩
  | cons item rest ih =>
      cases item with
      | failure => exact ⟨[.reads], (List.append_nil sent).symm, rfl⟩
      | frame frame =>
          rw [run]
          cases crosses : frame.relayed? code with
          | none =>
              obtain ⟨events, goesOut, ends⟩ := ih room sent
              refine ⟨.reads :: events, ?_⟩
              simp only [List.foldl_cons, step, List.cons_append, crosses]
              exact ⟨goesOut, ends⟩
          | some item =>
              by_cases full : room = some 0
              · refine ⟨[.reads, .sinkLost], ?_⟩
                simp [step, crosses, full, ended?]
              cases last : item.last with
              | true =>
                  refine ⟨[.reads, .taken, .flushed], ?_⟩
                  simp [step, crosses, full, last, ended?]
              | false =>
                  obtain ⟨events, goesOut, ends⟩ := ih (room.map Nat.pred) (sent ++ [item.frame])
                  refine ⟨.reads :: .taken :: .flushed :: events, ?_⟩
                  simp only [List.foldl_cons, step, List.cons_append, crosses, last, full]
                  refine ⟨?_, ends⟩
                  rw [List.append_assoc] at goesOut
                  exact goesOut

theorem exists_history_of_run (code : κ → ν) (room : Option Nat) (items : List (Item κ)) :
    ∃ history : List (Item κ ⊕ PumpEvent), arrived history = items ++ [.failure] ∧
      (drive (Frame.relayed? code) history).sent = (run (Frame.relayed? code) room items).1 ∧
      (drive (Frame.relayed? code) history).ended? =
        some (run (Frame.relayed? code) room items).2 := by
  have receiving (source : List (Item κ)) (pump : Pump κ ν) :
      source.foldl receive pump = { pump with unread := pump.unread ++ source } := by
    induction source generalizing pump with
    | nil => rw [List.append_nil, List.foldl_nil]
    | cons item source ih =>
        rw [List.foldl_cons, ih, receive, List.append_assoc]
        rfl
  obtain ⟨events, goesOut, ends⟩ := exists_events_of_run code room items []
  have driven : drive (Frame.relayed? code)
      ((items ++ [Item.failure]).map Sum.inl ++ events.map Sum.inr) =
        events.foldl (step (Frame.relayed? code)) { unread := items ++ [Item.failure] } := by
    rw [drive, List.foldl_append, List.foldl_map, List.foldl_map]
    simp only [Sum.elim_inl, Sum.elim_inr, receiving]
    rfl
  refine ⟨_, ?_, driven ▸ goesOut, driven ▸ ends⟩
  rw [arrived, List.filterMap_append, List.filterMap_map, List.filterMap_map]
  simp [Function.comp_def]

end Pump

namespace Frame

variable {κ ν : Type} {code : κ → ν} {frame : Frame κ} {item : Relayed ν}

/-- The last frame of a leg is a close frame, and no other is. -/
theorem last_of_relayed? (crosses : frame.relayed? code = some item) :
    item.last = frame.isClose ∧ item.frame.isClose = frame.isClose := by
  rw [relayed?_eq] at crosses
  obtain ⟨out, carries, rfl⟩ := Option.map_eq_some_iff.1 crosses
  exact ⟨rfl, isClose_of_carried? carries⟩

/-- Nothing but what keeps a transport alive stays on its leg. -/
theorem relayed?_eq_none_iff :
    frame.relayed? code = none ↔ ∃ data, frame = ping data ∨ frame = pong data := by
  cases frame <;> simp [relayed?]

/-- On the hub's leg a client's frame has lost nothing. -/
theorem toClient?_of_toHub? {frame : ClientFrame} {item : Relayed CloseCode}
    (crosses : frame.toHub? = some item) :
    item.frame.toClient? = some { frame, last := frame.isClose } := by
  cases frame with
  | text _ | binary _ =>
      cases crosses
      rfl
  | close reason =>
      cases crosses
      cases reason with
      | none => rfl
      | some reason => simp [toClient?, relayed?, isClose, CloseCode.number_ofNumber]
  | ping _ | pong _ => cases crosses

end Frame

/-- A relay adds nothing, loses nothing and changes nothing, in both directions. -/
theorem Relay.transparent :
    (∀ {κ ν : Type} (code : κ → ν) (room : Option Nat) (items : List (Pump.Item κ)),
      Pump.Transparent code room items (Pump.run (Frame.relayed? code) room items).1
        (Pump.run (Frame.relayed? code) room items).2) ∧
    (∀ {κ ν : Type} (code : κ → ν) (room : Option Nat) (items : List (Pump.Item κ)),
      ∃ history : List (Pump.Item κ ⊕ PumpEvent), Pump.arrived history = items ++ [.failure] ∧
        (Pump.drive (Frame.relayed? code) history).sent =
          (Pump.run (Frame.relayed? code) room items).1 ∧
        (Pump.drive (Frame.relayed? code) history).ended? =
          some (Pump.run (Frame.relayed? code) room items).2) ∧
    (∀ {κ ν : Type} (code : κ → ν) (history : List (Pump.Item κ ⊕ PumpEvent)) (ending : PumpEnd),
      (Pump.drive (Frame.relayed? code) history).ended? = some ending →
        ∃ room forwarded, Pump.Transparent code room (Pump.arrived history) forwarded ending ∧
          ((Pump.drive (Frame.relayed? code) history).sent = forwarded ∨
            ending = .sinkLost ∧ ∃ broken,
              (Pump.drive (Frame.relayed? code) history).sent = forwarded ++ [broken])) ∧
    (∀ frame : ClientFrame,
      (frame.toHub? = none ↔ ∃ data, frame = .ping data ∨ frame = .pong data) ∧
      ∀ item, frame.toHub? = some item →
        item.frame.toClient? = some { frame, last := frame.isClose }) ∧
    (∀ (frame : ClientFrame) (item : Relayed CloseCode), frame.toHub? = some item →
      (item.last = true ↔ ∃ reason, frame = .close reason)) ∧
    ∀ (frame : HubFrame) (item : Relayed UInt16), frame.toClient? = some item →
      (item.last = true ↔ ∃ reason, frame = .close reason) := by
  refine ⟨Pump.transparent_run, Pump.exists_history_of_run, ?_, ?_, ?_, ?_⟩
  · intro κ ν code history ending ended
    obtain ⟨room, ends, sent⟩ := Pump.exists_run_of_ended ended
    refine ⟨room, _, ends ▸ Pump.transparent_run code room (Pump.arrived history), sent⟩
  · exact fun frame => ⟨Frame.relayed?_eq_none_iff, fun _ => Frame.toClient?_of_toHub?⟩
  · intro frame item crosses
    rw [(Frame.last_of_relayed? crosses).1, Frame.isClose_iff]
  · intro frame item crosses
    rw [(Frame.last_of_relayed? crosses).1, Frame.isClose_iff]

/-- A client says something and leaves. -/
def partingHistory : List (Pump.Item UInt16 ⊕ PumpEvent) :=
  [.inl (.frame (.text "done")), .inl (.frame (.ping [])), .inr .reads, .inr .taken,
    .inl (.frame (.close (some (1000, "bye")))), .inr .flushed, .inr .reads, .inr .reads,
    .inr .taken, .inr .flushed]

theorem Relay.transparent_parting :
    (Pump.drive (Frame.relayed? CloseCode.ofNumber) partingHistory).ended? = some .closed ∧
      (∃ room forwarded,
        Pump.Transparent CloseCode.ofNumber room (Pump.arrived partingHistory) forwarded .closed ∧
          ((Pump.drive (Frame.relayed? CloseCode.ofNumber) partingHistory).sent = forwarded ∨
            PumpEnd.closed = .sinkLost ∧ ∃ broken,
              (Pump.drive (Frame.relayed? CloseCode.ofNumber) partingHistory).sent =
                forwarded ++ [broken])) ∧
      Frame.toClient? (.close (some (.normal, "bye"))) =
        some { frame := .close (some (1000, "bye")), last := true } :=
  ⟨by decide, Relay.transparent.2.2.1 _ partingHistory .closed (by decide),
    (Relay.transparent.2.2.2.1 (.close (some (1000, "bye")))).2
      { frame := .close (some (.normal, "bye")), last := true } (by decide)⟩

end EventHub
