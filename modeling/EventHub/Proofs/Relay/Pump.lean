import EventHub.Relay.Pump

/-!
One direction of a relay at any moment. What a pump has handed over is what it has read so far, in
the words of the other leg, and it has read nothing beyond the first close frame or the first
failure.
-/

namespace EventHub

theorem CloseCode.number_ofNumber (code : UInt16) : (ofNumber code).number = code := by
  rw [ofNumber]
  split
  case h_15 =>
    repeat' split
    all_goals rfl
  all_goals next same => exact UInt16.toNat_inj.1 same.symm

namespace Frame

variable {κ ν : Type}

def isClose : Frame κ → Bool
  | close _ => true
  | text _ | binary _ | ping _ | pong _ => false

/-- A frame in the words of the other leg; pings and pongs are not for it. -/
def carried? (code : κ → ν) : Frame κ → Option (Frame ν)
  | text content => some (text content)
  | binary data => some (binary data)
  | close frame => some (close (frame.map fun (value, reason) => (code value, reason)))
  | ping _ | pong _ => none

/-- What comes before the first close frame, and that frame. -/
def throughClose : List (Frame κ) → List (Frame κ)
  | [] => []
  | frame :: rest => if frame.isClose then [frame] else frame :: throughClose rest

variable {code : κ → ν} {frame : Frame κ}

theorem relayed?_eq (code : κ → ν) (frame : Frame κ) :
    frame.relayed? code =
      (frame.carried? code).map fun carried => { frame := carried, last := frame.isClose } := by
  cases frame <;> rfl

theorem isClose_iff : frame.isClose = true ↔ ∃ reason, frame = close reason := by
  cases frame <;> simp [isClose]

theorem isClose_of_carried? {carried : Frame ν} (carries : frame.carried? code = some carried) :
    carried.isClose = frame.isClose := by
  cases frame with
  | text _ | binary _ | close _ =>
      cases carries
      rfl
  | ping _ | pong _ => cases carries

theorem throughClose_append {plain : List (Frame κ)}
    (isPlain : ∀ frame ∈ plain, frame.isClose = false) (rest : List (Frame κ)) :
    throughClose (plain ++ rest) = plain ++ throughClose rest := by
  induction plain with
  | nil => rfl
  | cons frame plain ih =>
      obtain ⟨goesOn, isPlain⟩ := List.forall_mem_cons.1 isPlain
      rw [List.cons_append, throughClose, goesOn, ih isPlain]
      rfl

/-- The first of the rest is taken even if it is a close frame. -/
theorem throughClose_cons (frame : Frame κ) (rest : List (Frame κ)) :
    ∃ later, throughClose (frame :: rest) = frame :: later := by
  rw [throughClose]
  split
  · exact ⟨[], rfl⟩
  · exact ⟨_, rfl⟩

end Frame

namespace Pump

variable {κ ν : Type}

def Item.frame? : Item κ → Option (Frame κ)
  | .frame carried => some carried
  | .failure => none

/-- The frames of a source in the words of the other leg. -/
def carried (code : κ → ν) (items : List (Item κ)) : List (Frame ν) :=
  (items.filterMap Item.frame?).filterMap (Frame.carried? code)

/-- All that a source has for the other leg: the carried frames up to its first close. -/
def relayable (code : κ → ν) (items : List (Item κ)) : List (Frame ν) :=
  (Frame.throughClose (items.filterMap Item.frame?)).filterMap (Frame.carried? code)

/-- Nothing among the items ends a pump. -/
def Plain (items : List (Item κ)) : Prop :=
  ∀ item ∈ items, ∃ frame, item = .frame frame ∧ frame.isClose = false

/-- What a pump is at and what it has handed over, by the items it has read. -/
inductive Stands (code : κ → ν) : List (Item κ) → PumpPhase ν → List (Frame ν) → Prop
  | reading {read : List (Item κ)} (plain : Plain read) :
      Stands code read .reading (carried code read)
  | handing {read : List (Item κ)} {frame : Frame κ} {out : Frame ν} (plain : Plain read)
      (carries : frame.carried? code = some out) :
      Stands code (read ++ [.frame frame]) (.handing { frame := out, last := frame.isClose })
        (carried code read)
  | flushing {read : List (Item κ)} {frame : Frame κ} {out : Frame ν} (plain : Plain read)
      (carries : frame.carried? code = some out) :
      Stands code (read ++ [.frame frame]) (.flushing frame.isClose) (carried code read ++ [out])
  | closed {read : List (Item κ)} {reason : Option (κ × String)} (plain : Plain read) :
      Stands code (read ++ [.frame (.close reason)]) (.finished .closed)
        (carried code read ++ [.close (reason.map fun (value, reason) => (code value, reason))])
  | sourceLost {read : List (Item κ)} (plain : Plain read) :
      Stands code (read ++ [.failure]) (.finished .sourceLost) (carried code read)
  /-- The sink failed before it took the frame. -/
  | refused {read : List (Item κ)} {frame : Frame κ} {out : Frame ν} (plain : Plain read)
      (carries : frame.carried? code = some out) :
      Stands code (read ++ [.frame frame]) (.finished .sinkLost) (carried code read)
  /-- The sink failed with the frame in its hands. -/
  | broken {read : List (Item κ)} {frame : Frame κ} {out : Frame ν} (plain : Plain read)
      (carries : frame.carried? code = some out) :
      Stands code (read ++ [.frame frame]) (.finished .sinkLost) (carried code read ++ [out])

/-- A pump is where it should be when these items have come in. -/
def Faithful (code : κ → ν) (arrived : List (Item κ)) (pump : Pump κ ν) : Prop :=
  ∃ read, arrived = read ++ pump.unread ∧ Stands code read pump.phase pump.sent

/-- What ends a pump: the source is found to have failed, the sink fails with a frame to take or to
write out, or a close frame is out. -/
inductive Ends (pump : Pump κ ν) : PumpEvent → PumpEnd → Prop
  | sourceLost (idle : pump.phase = .reading) (lost : pump.unread.head? = some .failure) :
      Ends pump .reads .sourceLost
  | refused {item : Relayed ν} (handing : pump.phase = .handing item) :
      Ends pump .sinkLost .sinkLost
  | broken {last : Bool} (flushing : pump.phase = .flushing last) : Ends pump .sinkLost .sinkLost
  | closed {last : Bool} {reason : Option (ν × String)} (flushing : pump.phase = .flushing last)
      (isClose : pump.sent.getLast? = some (.close reason)) : Ends pump .flushed .closed

variable {code : κ → ν} {arrived read items : List (Item κ)} {pump : Pump κ ν}

theorem ended?_eq_some_iff {ending : PumpEnd} :
    pump.ended? = some ending ↔ pump.phase = .finished ending := by
  rw [ended?]
  split
  · next other phase => simp [phase]
  · next others => exact iff_of_false nofun (others ending)

theorem carried_append (code : κ → ν) (earlier later : List (Item κ)) :
    carried code (earlier ++ later) = carried code earlier ++ carried code later := by
  rw [carried, List.filterMap_append, List.filterMap_append]
  rfl

theorem carried_snoc (code : κ → ν) (read : List (Item κ)) (frame : Frame κ) :
    carried code (read ++ [.frame frame]) = carried code read ++ (frame.carried? code).toList := by
  rw [carried_append, carried, carried]
  cases carries : frame.carried? code <;> simp [Item.frame?, carries]

theorem Plain.snoc {frame : Frame κ} (plain : Plain items) (goesOn : frame.isClose = false) :
    Plain (items ++ [.frame frame]) := by
  intro item member
  rcases List.mem_append.1 member with member | isLast
  · exact plain item member
  · exact ⟨frame, List.mem_singleton.1 isLast, goesOn⟩

theorem Plain.relayable (plain : Plain read) (rest : List (Item κ)) :
    relayable code (read ++ rest) = carried code read ++ relayable code rest := by
  have goOn : ∀ frame ∈ read.filterMap Item.frame?, frame.isClose = false := by
    intro frame member
    obtain ⟨item, isRead, isFrame⟩ := List.mem_filterMap.1 member
    obtain ⟨other, rfl, goesOn⟩ := plain item isRead
    cases isFrame
    exact goesOn
  rw [Pump.relayable, List.filterMap_append, Frame.throughClose_append goOn,
    List.filterMap_append]
  rfl

theorem relayable_cons {frame : Frame κ} {out : Frame ν} (carries : frame.carried? code = some out)
    (rest : List (Item κ)) :
    ∃ later, relayable code (.frame frame :: rest) = out :: later := by
  obtain ⟨later, through⟩ := Frame.throughClose_cons frame (rest.filterMap Item.frame?)
  refine ⟨later.filterMap (Frame.carried? code), ?_⟩
  rw [relayable, List.filterMap_cons_some (show Item.frame? (.frame frame) = some frame from rfl),
    through, List.filterMap_cons_some carries]

/-- Nothing is made up, left out or handed over twice, and nothing comes after a close frame. -/
theorem Faithful.sent_isPrefix (faithful : Faithful code arrived pump) :
    pump.sent <+: relayable code arrived := by
  obtain ⟨read, rfl, stands⟩ := faithful
  have withLast {read : List (Item κ)} {frame : Frame κ} {out : Frame ν} (plain : Plain read)
      (carries : frame.carried? code = some out) (unread : List (Item κ)) :
      carried code read ++ [out] <+: relayable code ((read ++ [.frame frame]) ++ unread) := by
    obtain ⟨later, begins⟩ := relayable_cons carries unread
    rw [List.append_assoc, plain.relayable, List.singleton_append, begins]
    exact ⟨later, by simp⟩
  have without {read : List (Item κ)} (plain : Plain read) (rest unread : List (Item κ)) :
      carried code read <+: relayable code ((read ++ rest) ++ unread) := by
    rw [List.append_assoc, plain.relayable]
    exact List.prefix_append _ _
  generalize pump.phase = phase, pump.sent = sent at stands
  cases stands with
  | reading plain =>
      rw [plain.relayable]
      exact List.prefix_append _ _
  | handing plain carries => exact without plain _ _
  | flushing plain carries => exact withLast plain carries _
  | closed plain => exact withLast plain rfl _
  | sourceLost plain => exact without plain _ _
  | refused plain carries => exact without plain _ _
  | broken plain carries => exact withLast plain carries _

theorem Faithful.caughtUp (faithful : Faithful code arrived pump) (idle : pump.phase = .reading) :
    ∃ read, arrived = read ++ pump.unread ∧ pump.sent = carried code read := by
  obtain ⟨read, isArrived, stands⟩ := faithful
  rw [idle] at stands
  generalize pump.sent = sent at stands
  cases stands with
  | reading plain => exact ⟨read, isArrived, rfl⟩

/-- A pump that ended with a close frame has handed over everything up to the first one. -/
theorem Faithful.closed (faithful : Faithful code arrived pump)
    (ended : pump.phase = .finished .closed) :
    ∃ read reason rest, arrived = read ++ .frame (.close reason) :: rest ∧ Plain read ∧
      pump.sent = carried code read ++
        [.close (reason.map fun (value, reason) => (code value, reason))] := by
  obtain ⟨read, isArrived, stands⟩ := faithful
  rw [ended] at stands
  generalize pump.sent = sent at stands
  cases stands with
  | closed plain => exact ⟨_, _, pump.unread, by rw [isArrived, List.append_assoc]; rfl, plain, rfl⟩

/-! What can happen to a pump. -/

theorem faithful_start (code : κ → ν) : Faithful code [] ({} : Pump κ ν) :=
  ⟨[], rfl, .reading fun _ absent => nomatch absent⟩

theorem Faithful.receive (faithful : Faithful code arrived pump) (item : Item κ) :
    Faithful code (arrived ++ [item]) (pump.receive item) := by
  obtain ⟨read, rfl, stands⟩ := faithful
  exact ⟨read, List.append_assoc _ _ _, stands⟩

/-- A frame that the other leg has no word for is as good as unread. -/
theorem Stands.skip {sent : List (Frame ν)} {frame : Frame κ}
    (stands : Stands code read .reading sent) (stays : frame.carried? code = none) :
    Stands code (read ++ [.frame frame]) .reading sent := by
  cases stands with
  | reading plain =>
      have goesOn : frame.isClose = false := by
        cases frame with
        | ping _ | pong _ => rfl
        | text _ | binary _ | close _ => cases stays
      have nothing := carried_snoc code read frame
      rw [stays, Option.toList_none, List.append_nil] at nothing
      exact nothing ▸ .reading (plain.snoc goesOn)

theorem Faithful.step (faithful : Faithful code arrived pump) (event : PumpEvent) :
    Faithful code arrived (pump.step (Frame.relayed? code) event) := by
  have unchanged := faithful
  obtain ⟨read, isArrived, stands⟩ := faithful
  obtain ⟨phase, unread, sent⟩ := pump
  cases event with
  | reads =>
      cases phase with
      | reading =>
          cases unread with
          | nil => exact unchanged
          | cons item rest =>
              rw [List.append_cons] at isArrived
              cases item with
              | frame frame =>
                  simp only [Pump.step, Frame.relayed?_eq]
                  cases carries : frame.carried? code with
                  | none => exact ⟨_, isArrived, stands.skip carries⟩
                  | some out =>
                      cases stands with
                      | reading plain => exact ⟨_, isArrived, .handing plain carries⟩
              | failure =>
                  cases stands with
                  | reading plain => exact ⟨_, isArrived, .sourceLost plain⟩
      | handing | flushing | finished => exact unchanged
  | taken =>
      cases phase with
      | handing item =>
          cases stands with
          | handing plain carries => exact ⟨_, isArrived, .flushing plain carries⟩
      | reading | flushing | finished => exact unchanged
  | flushed =>
      cases phase with
      | flushing last =>
          cases stands with
          | @flushing read frame out plain carries =>
              simp only [Pump.step]
              cases isClose : frame.isClose with
              | true =>
                  obtain ⟨reason, rfl⟩ := Frame.isClose_iff.1 isClose
                  cases carries
                  exact ⟨_, isArrived, .closed plain⟩
              | false =>
                  have stands : Stands code (read ++ [.frame frame]) .reading
                      (carried code read ++ [out]) := by
                    have more := carried_snoc code read frame
                    rw [carries] at more
                    exact more ▸ .reading (plain.snoc isClose)
                  exact ⟨_, isArrived, stands⟩
      | reading | handing | finished => exact unchanged
  | sinkLost =>
      cases phase with
      | handing item =>
          cases stands with
          | handing plain carries => exact ⟨_, isArrived, .refused plain carries⟩
      | flushing last =>
          cases stands with
          | flushing plain carries => exact ⟨_, isArrived, .broken plain carries⟩
      | reading | finished => exact unchanged

/-- A frame that is being written out is the last one the sink took. -/
theorem Faithful.flushing (faithful : Faithful code arrived pump) {last : Bool}
    (flushing : pump.phase = .flushing last) :
    ∃ frame, pump.sent.getLast? = some frame ∧ frame.isClose = last := by
  obtain ⟨read, -, stands⟩ := faithful
  rw [flushing] at stands
  generalize pump.sent = sent at stands
  cases stands with
  | flushing plain carries =>
      exact ⟨_, List.getLast?_concat, Frame.isClose_of_carried? carries⟩

theorem Faithful.ended_step_iff (faithful : Faithful code arrived pump)
    (atWork : pump.ended? = none) (event : PumpEvent) (ending : PumpEnd) :
    (pump.step (Frame.relayed? code) event).ended? = some ending ↔ pump.Ends event ending := by
  have writing := fun last (phase : pump.phase = .flushing last) => faithful.flushing phase
  obtain ⟨phase, unread, sent⟩ := pump
  cases event with
  | reads =>
      cases phase with
      | reading =>
          rcases unread with _ | ⟨_ | _, rest⟩
          · exact iff_of_false nofun nofun
          · rename_i frame
            refine iff_of_false ?_ nofun
            simp only [Pump.step]
            cases frame.relayed? code <;> nofun
          · refine ⟨fun ended => ?_, fun ends => ?_⟩
            · cases ended
              exact .sourceLost rfl rfl
            · cases ends
              rfl
      | handing | flushing => exact iff_of_false nofun nofun
      | finished => cases atWork
  | taken =>
      cases phase with
      | reading | handing | flushing => exact iff_of_false nofun nofun
      | finished => cases atWork
  | flushed =>
      cases phase with
      | flushing last =>
          obtain ⟨frame, isLast, isClose⟩ := writing last rfl
          cases last with
          | true =>
              obtain ⟨reason, rfl⟩ := Frame.isClose_iff.1 isClose
              refine ⟨fun ended => ?_, fun ends => ?_⟩
              · cases ended
                exact .closed rfl isLast
              · cases ends
                rfl
          | false =>
              refine iff_of_false nofun fun ends => ?_
              cases ends with
              | closed _ close =>
                  cases isLast.symm.trans close
                  cases isClose
      | reading | handing => exact iff_of_false nofun nofun
      | finished => cases atWork
  | sinkLost =>
      cases phase with
      | handing =>
          refine ⟨fun ended => ?_, fun ends => ?_⟩
          · cases ended
            exact .refused rfl
          · cases ends <;> rfl
      | flushing =>
          refine ⟨fun ended => ?_, fun ends => ?_⟩
          · cases ended
            exact .broken rfl
          · cases ends <;> rfl
      | reading => exact iff_of_false nofun nofun
      | finished => cases atWork

end Pump

end EventHub
