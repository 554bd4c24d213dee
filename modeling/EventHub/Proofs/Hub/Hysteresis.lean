import EventHub.Proofs.Hub.BufferHistory
import Mathlib.Data.List.Chain

/-!
The two marks of a buffer. A buffer pauses when it fills up to the high mark and resumes when it
empties down to the low mark, which is the lower one whatever ratios are asked for.
-/

namespace EventHub

namespace Crossing

/-- The only crossing that a buffer can make next. -/
def due (paused : Bool) : Crossing :=
  if paused then .resumed else .paused

theorem count_toList (crossing : Option Crossing) (made : Crossing) :
    crossing.toList.count made = if crossing = some made then 1 else 0 := by
  cases crossing with
  | none => rfl
  | some other => simp [List.count_singleton]

theorem due_ne (paused : Bool) : due paused ≠ due !paused := by
  cases paused <;> exact Crossing.noConfusion

end Crossing

namespace Buffer

namespace Step

/-- The crossing that a step reports. A `clear` resumes a paused buffer and tells nobody. -/
def reported? (buffer : Buffer) : Step → Option Crossing
  | enqueue payload => (buffer.enqueue payload).2.crossing
  | dequeue => buffer.dequeue.2.bind Dequeued.crossing
  | clear => none

/-- The crossing that a step makes, told or untold. -/
def crossing? (buffer : Buffer) : Step → Option Crossing
  | clear => if buffer.paused then some .resumed else none
  | step => step.reported? buffer

end Step

def reported (buffer : Buffer) (steps : List Step) : List Crossing :=
  gather (fun buffer step => (step.reported? buffer).toList) buffer steps

def crossings (buffer : Buffer) (steps : List Step) : List Crossing :=
  gather (fun buffer step => (step.crossing? buffer).toList) buffer steps

/-- What a crossing changes besides the queue. -/
structure Crosses (crossing : Option Crossing) (before after : Buffer) : Prop where
  due : ∀ made, crossing = some made → made = .due before.paused
  paused : after.paused = (before.paused ^^ crossing.isSome)
  pauseCount : after.pauseCount = before.pauseCount + if crossing = some .paused then 1 else 0
  resumeCount : after.resumeCount = before.resumeCount + if crossing = some .resumed then 1 else 0
  highMark : after.highMark = before.highMark
  lowMark : after.lowMark = before.lowMark

theorem crosses_checkHigh (buffer : Buffer) :
    Crosses buffer.checkHigh.2 buffer buffer.checkHigh.1 := by
  rw [checkHigh]
  split
  · rename_i reached
    have flowing : buffer.paused = false := by simp at reached; exact reached.1
    exact ⟨by simp [flowing, Crossing.due], by simp [flowing], rfl, rfl, rfl, rfl⟩
  · exact ⟨by simp, by simp, rfl, rfl, rfl, rfl⟩

theorem crosses_checkLow (buffer : Buffer) :
    Crosses buffer.checkLow.2 buffer buffer.checkLow.1 := by
  rw [checkLow]
  split
  · rename_i reached
    have held : buffer.paused = true := by simp at reached; exact reached.1
    exact ⟨by simp [held, Crossing.due], by simp [held], rfl, rfl, rfl, rfl⟩
  · exact ⟨by simp, by simp, rfl, rfl, rfl, rfl⟩

theorem makeRoom_eq (buffer : Buffer) : ∃ queue dropped,
    buffer.makeRoom = { buffer with queue, dropped } := by
  rw [makeRoom]
  split
  · exact ⟨_, _, rfl⟩
  · exact ⟨_, _, rfl⟩

theorem crosses_enqueue (buffer : Buffer) (payload : Payload) :
    Crosses (buffer.enqueue payload).2.crossing buffer (buffer.enqueue payload).1 := by
  obtain ⟨queue, dropped, room⟩ := buffer.makeRoom_eq
  have crosses := crosses_checkHigh (buffer.makeRoom.append payload)
  rw [room] at crosses
  rw [enqueue, room]
  exact ⟨crosses.due, crosses.paused, crosses.pauseCount, crosses.resumeCount, crosses.highMark,
    crosses.lowMark⟩

theorem crosses_apply (buffer : Buffer) (step : Step) :
    Crosses (step.crossing? buffer) buffer (step.apply buffer) := by
  cases step with
  | enqueue payload => exact crosses_enqueue buffer payload
  | dequeue =>
      simp only [Step.crossing?, Step.reported?, Step.apply, dequeue]
      cases buffer.queue with
      | nil => exact ⟨by simp, by simp, rfl, rfl, rfl, rfl⟩
      | cons payload rest =>
          have crosses := crosses_checkLow { buffer with queue := rest }
          exact ⟨crosses.due, crosses.paused, crosses.pauseCount, crosses.resumeCount,
            crosses.highMark, crosses.lowMark⟩
  | clear =>
      rw [Step.crossing?, Step.apply, clear]
      cases held : buffer.paused with
      | false => exact ⟨by simp, by simp [held], rfl, rfl, rfl, rfl⟩
      | true => exact ⟨by simp [held, Crossing.due], by simp [held], rfl, rfl, rfl, rfl⟩

namespace Crosses

variable {crossing : Option Crossing} {before after : Buffer}

/-- A crossing is the one that is due, and turns the buffer over. -/
theorem made_iff (crosses : Crosses crossing before after) (made : Crossing) :
    crossing = some made ↔ made = .due before.paused ∧ after.paused = !before.paused := by
  rw [crosses.paused]
  cases crossed : crossing with
  | none => simp
  | some other =>
      rw [← crosses.due other crossed]
      simp [eq_comm]

theorem paused_iff (crosses : Crosses crossing before after) :
    crossing = some .paused ↔ before.paused = false ∧ after.paused = true := by
  rw [crosses.made_iff]
  cases before.paused with
  | false => simp [Crossing.due]
  | true => simp [Crossing.due]

theorem resumed_iff (crosses : Crosses crossing before after) :
    crossing = some .resumed ↔ before.paused = true ∧ after.paused = false := by
  rw [crosses.made_iff]
  cases before.paused with
  | false => simp [Crossing.due]
  | true => simp [Crossing.due]

end Crosses

variable {buffer : Buffer}

theorem paused_checkHigh (buffer : Buffer) :
    buffer.checkHigh.1.paused = (buffer.paused || decide (buffer.highMark ≤ buffer.depth)) := by
  rw [checkHigh]
  cases held : buffer.paused with
  | true => exact held
  | false =>
      by_cases reached : buffer.highMark ≤ buffer.depth
      · simp [reached]
      · simp [reached, held]

theorem paused_checkLow (buffer : Buffer) :
    buffer.checkLow.1.paused = (buffer.paused && decide (buffer.lowMark < buffer.depth)) := by
  rw [checkLow]
  cases held : buffer.paused with
  | false => exact held
  | true =>
      by_cases reached : buffer.depth ≤ buffer.lowMark
      · simp [reached]
      · simp [reached, held, Nat.lt_of_not_le reached]

theorem paused_enqueue_iff (payload : Payload) :
    (buffer.enqueue payload).1.paused = true ↔
      buffer.paused = true ∨ buffer.highMark ≤ (buffer.enqueue payload).1.depth := by
  obtain ⟨queue, dropped, room⟩ := buffer.makeRoom_eq
  have depth_eq : (buffer.enqueue payload).1.depth = (buffer.makeRoom.append payload).depth :=
    congrArg List.length (queue_enqueue buffer payload)
  have paused_eq : (buffer.enqueue payload).1.paused =
      (buffer.makeRoom.append payload).checkHigh.1.paused := rfl
  rw [depth_eq, paused_eq, paused_checkHigh, Bool.or_eq_true, decide_eq_true_eq, room]
  rfl

theorem depth_dequeue (buffer : Buffer) : buffer.dequeue.1.depth = buffer.depth - 1 := by
  rw [depth, queue_dequeue, List.length_tail, depth]

theorem paused_dequeue_iff (waiting : 0 < buffer.depth) :
    buffer.dequeue.1.paused = true ↔
      buffer.paused = true ∧ buffer.lowMark < buffer.dequeue.1.depth := by
  obtain ⟨payload, rest, queue⟩ := List.exists_cons_of_length_pos waiting
  have paused_eq : buffer.dequeue.1.paused = { buffer with queue := rest }.checkLow.1.paused := by
    rw [dequeue, queue]
  have depth_eq : buffer.dequeue.1.depth = { buffer with queue := rest }.depth := by
    rw [depth, queue_dequeue, queue]
    rfl
  rw [depth_eq, paused_eq, paused_checkLow, Bool.and_eq_true, decide_eq_true_eq]

theorem dequeue_of_empty (empty : buffer.depth = 0) : buffer.dequeue = (buffer, none) := by
  rw [dequeue, List.length_eq_zero_iff.1 empty]

theorem crossing_enqueue_ne (payload : Payload) :
    (buffer.enqueue payload).2.crossing ≠ some .resumed := by
  intro made
  obtain ⟨held, resumed⟩ := (crosses_enqueue buffer payload).resumed_iff.1 made
  have stays := (paused_enqueue_iff payload).2 (Or.inl held)
  rw [resumed] at stays
  cases stays

theorem crossing_dequeue_ne : buffer.dequeue.2.bind Dequeued.crossing ≠ some .paused := by
  intro made
  obtain ⟨flowing, paused⟩ := (crosses_apply buffer .dequeue).paused_iff.1 made
  rw [Step.apply] at paused
  rcases Nat.eq_zero_or_pos buffer.depth with empty | waiting
  · rw [dequeue_of_empty empty, flowing] at paused
    cases paused
  · have held := ((paused_dequeue_iff waiting).1 paused).1
    rw [flowing] at held
    cases held

/-- Between its marks: below the high one, or held until it is down to the low one. -/
structure Steady (buffer : Buffer) : Prop where
  bounded : buffer.Bounded
  apart : buffer.lowMark < buffer.highMark
  reachable : buffer.highMark ≤ buffer.capacity
  flowing : buffer.paused = false → buffer.depth < buffer.highMark
  held : buffer.paused = true → buffer.lowMark < buffer.depth
  counts : buffer.pauseCount = buffer.resumeCount + if buffer.paused then 1 else 0

theorem steady_ofConfig (config : BufferConfig) : (ofConfig config).Steady where
  bounded := bounded_ofConfig config
  apart := config.effective.lowMark_lt_highMark
  reachable := by
    have reachable := config.effective.highMark_le
    have same : atLeastOne config.effective.capacity = config.effective.capacity :=
      Nat.max_eq_left (Nat.le_max_right _ _)
    rw [same] at reachable
    exact reachable
  flowing := fun _ => config.effective.one_le_highMark
  held := by
    intro held
    cases held
  counts := rfl

namespace Steady

theorem depth_enqueue (steady : buffer.Steady) (flowing : buffer.paused = false)
    (payload : Payload) : (buffer.enqueue payload).1.depth = buffer.depth + 1 := by
  have below := steady.flowing flowing
  have reachable := steady.reachable
  rw [steady.bounded.depth_enqueue]
  omega

theorem pauses_iff (steady : buffer.Steady) (payload : Payload) :
    (buffer.enqueue payload).2.crossing = some .paused ↔
      buffer.paused = false ∧ (buffer.enqueue payload).1.depth = buffer.highMark := by
  rw [(crosses_enqueue buffer payload).paused_iff, paused_enqueue_iff]
  refine and_congr_right fun flowing => ?_
  have below := steady.flowing flowing
  rw [steady.depth_enqueue flowing, flowing]
  simp
  omega

theorem resumes_iff (steady : buffer.Steady) :
    buffer.dequeue.2.bind Dequeued.crossing = some .resumed ↔
      buffer.paused = true ∧ buffer.dequeue.1.depth = buffer.lowMark := by
  have crosses := crosses_apply buffer .dequeue
  refine crosses.resumed_iff.trans (and_congr_right fun held => ?_)
  have above := steady.held held
  rw [← Bool.not_eq_true, Step.apply, paused_dequeue_iff (Nat.zero_lt_of_lt above), depth_dequeue,
    held]
  simp
  omega

/-- A buffer that has to drop something is held already. -/
theorem crossing_of_refused (steady : buffer.Steady) {payload : Payload}
    (refused : (buffer.enqueue payload).2.accepted = false) :
    (buffer.enqueue payload).2.crossing = none := by
  have crosses := crosses_enqueue buffer payload
  have full := (steady.bounded.accepted_eq_false_iff payload).1 refused
  have reachable := steady.reachable
  cases made : (buffer.enqueue payload).2.crossing with
  | none => rfl
  | some crossing =>
      cases crossing with
      | paused =>
          have below := steady.flowing (crosses.paused_iff.1 made).1
          omega
      | resumed => exact absurd made (crossing_enqueue_ne payload)

theorem counts_of_crosses (steady : buffer.Steady) {crossing : Option Crossing} {after : Buffer}
    (crosses : Crosses crossing buffer after) :
    after.pauseCount = after.resumeCount + if after.paused then 1 else 0 := by
  have counts := steady.counts
  rw [crosses.pauseCount, crosses.resumeCount, crosses.paused, counts]
  cases made : crossing with
  | none => simp
  | some other =>
      rw [crosses.due other made, Crossing.due]
      cases buffer.paused with
      | false => simp
      | true => simp

/-- A step leaves the buffer below its high mark, or held above its low mark. -/
theorem level_apply (steady : buffer.Steady) (step : Step) :
    ((step.apply buffer).paused = false → (step.apply buffer).depth < buffer.highMark) ∧
      ((step.apply buffer).paused = true → buffer.lowMark < (step.apply buffer).depth) := by
  have apart := steady.apart
  cases step with
  | enqueue payload =>
      rw [← Bool.not_eq_true, Step.apply, paused_enqueue_iff]
      refine ⟨fun flowing => Nat.lt_of_not_le fun reached => flowing (Or.inr reached), ?_⟩
      rintro (held | reached)
      · have above := steady.held held
        have within := steady.bounded.within
        rw [steady.bounded.depth_enqueue]
        omega
      · exact apart.trans_le reached
  | dequeue =>
      -- An empty buffer stays as it is, and it is not held.
      rcases Nat.eq_zero_or_pos buffer.depth with empty | waiting
      · rw [Step.apply, dequeue_of_empty empty]
        exact ⟨steady.flowing, steady.held⟩
      · rw [← Bool.not_eq_true, Step.apply, paused_dequeue_iff waiting]
        refine ⟨fun resumed => ?_, fun held => held.2⟩
        cases held : buffer.paused with
        | false =>
            have below := steady.flowing held
            rw [depth_dequeue]
            omega
        | true =>
            have low : ¬buffer.lowMark < buffer.dequeue.1.depth := fun above =>
              resumed ⟨held, above⟩
            omega
  | clear => exact ⟨fun _ => Nat.zero_lt_of_lt apart, fun held => by cases held⟩

theorem apply (steady : buffer.Steady) (step : Step) : (step.apply buffer).Steady := by
  have crosses := crosses_apply buffer step
  have level := steady.level_apply step
  exact
    { bounded := steady.bounded.apply step
      apart := by rw [crosses.lowMark, crosses.highMark]; exact steady.apart
      reachable := by rw [crosses.highMark, capacity_apply]; exact steady.reachable
      flowing := by rw [crosses.highMark]; exact level.1
      held := by rw [crosses.lowMark]; exact level.2
      counts := steady.counts_of_crosses crosses }

theorem run (steady : buffer.Steady) (steps : List Step) : (buffer.run steps).Steady := by
  induction steps generalizing buffer with
  | nil => exact steady
  | cons step rest ih => exact ih (steady.apply step)

end Steady

theorem crossings_cons (buffer : Buffer) (step : Step) (rest : List Step) :
    buffer.crossings (step :: rest) =
      (step.crossing? buffer).toList ++ (step.apply buffer).crossings rest := rfl

theorem marks_run (buffer : Buffer) (steps : List Step) :
    (buffer.run steps).highMark = buffer.highMark ∧
      (buffer.run steps).lowMark = buffer.lowMark := by
  induction steps generalizing buffer with
  | nil => exact ⟨rfl, rfl⟩
  | cons step rest ih =>
      have crosses := crosses_apply buffer step
      obtain ⟨highMark, lowMark⟩ := ih (step.apply buffer)
      exact ⟨highMark.trans crosses.highMark, lowMark.trans crosses.lowMark⟩

theorem counts_run (buffer : Buffer) (steps : List Step) :
    (buffer.run steps).pauseCount = buffer.pauseCount + (buffer.crossings steps).count .paused ∧
      (buffer.run steps).resumeCount =
        buffer.resumeCount + (buffer.crossings steps).count .resumed := by
  induction steps generalizing buffer with
  | nil => exact ⟨rfl, rfl⟩
  | cons step rest ih =>
      have crosses := crosses_apply buffer step
      obtain ⟨pauses, resumes⟩ := ih (step.apply buffer)
      rw [crosses.pauseCount] at pauses
      rw [crosses.resumeCount] at resumes
      rw [crossings_cons, List.count_append, List.count_append, ← Nat.add_assoc,
        ← Nat.add_assoc, Crossing.count_toList, Crossing.count_toList]
      exact ⟨pauses, resumes⟩

/-- Crossings take turns, and the first is the one that is due. -/
theorem alternate_crossings (buffer : Buffer) (steps : List Step) :
    (buffer.crossings steps).IsChain (· ≠ ·) ∧
      ∀ first ∈ (buffer.crossings steps).head?, first = .due buffer.paused := by
  induction steps generalizing buffer with
  | nil => exact ⟨List.isChain_nil, by simp [crossings, gather]⟩
  | cons step rest ih =>
      have crosses := crosses_apply buffer step
      obtain ⟨chain, first⟩ := ih (step.apply buffer)
      rw [crosses.paused] at first
      rw [crossings_cons]
      cases made : step.crossing? buffer with
      | none =>
          rw [made] at first
          exact ⟨chain, by simpa using first⟩
      | some crossing =>
          rw [made] at first
          have due := crosses.due crossing made
          refine ⟨List.isChain_cons.2 ⟨?_, chain⟩, ?_⟩
          · intro next head
            rw [first next head, due]
            simpa using Crossing.due_ne buffer.paused
          · simpa using due

theorem reported_eq_crossings (buffer : Buffer) {steps : List Step} (kept : .clear ∉ steps) :
    buffer.reported steps = buffer.crossings steps := by
  induction steps generalizing buffer with
  | nil => rfl
  | cons step rest ih =>
      have later := ih (step.apply buffer) fun member =>
        kept (List.mem_cons_of_mem _ member)
      have same : step.reported? buffer = step.crossing? buffer := by
        cases step with
        | enqueue payload => rfl
        | dequeue => rfl
        | clear => exact absurd List.mem_cons_self kept
      rw [crossings_cons, ← later, ← same]
      rfl

/-- A buffer that was made from the configuration and went through the steps pauses at one mark and
resumes at another below it, and the two take turns. -/
structure Hysteresis (config : BufferConfig) (steps : List Step) (buffer : Buffer) : Prop where
  highMark : buffer.highMark = config.effective.highMark
  lowMark : buffer.lowMark = config.effective.lowMark
  capacity : buffer.capacity = atLeastOne config.capacity
  positive : 1 ≤ buffer.highMark
  steady : buffer.Steady
  pauses : ∀ payload, (buffer.enqueue payload).2.crossing = some .paused ↔
    buffer.paused = false ∧ (buffer.enqueue payload).1.depth = buffer.highMark
  resumes : buffer.dequeue.2.bind Dequeued.crossing = some .resumed ↔
    buffer.paused = true ∧ buffer.dequeue.1.depth = buffer.lowMark
  onlyPauses : ∀ payload, (buffer.enqueue payload).2.crossing ≠ some .resumed
  onlyResumes : buffer.dequeue.2.bind Dequeued.crossing ≠ some .paused
  dropsSilently : ∀ payload, (buffer.enqueue payload).2.accepted = false →
    (buffer.enqueue payload).2.crossing = none
  /-- The two counters count all crossings, and no two in a row are alike. -/
  pauseCount : buffer.pauseCount = ((ofConfig config).crossings steps).count .paused
  resumeCount : buffer.resumeCount = ((ofConfig config).crossings steps).count .resumed
  alternate : ((ofConfig config).crossings steps).IsChain (· ≠ ·)
  pausesFirst : ∀ first ∈ ((ofConfig config).crossings steps).head?, first = .paused
  /-- As a `clear` is silent, it is between clears that the reported ones take turns. -/
  reportedAlternate : ∀ later, .clear ∉ later → (buffer.reported later).IsChain (· ≠ ·)

/-- Whatever its configuration and its steps, a buffer keeps to its marks. -/
theorem hysteresis_run (config : BufferConfig) (steps : List Step) :
    (config.lowMark < config.highMark ∧ 1 ≤ config.highMark ∧
        config.highMark ≤ atLeastOne config.capacity) ∧
      Hysteresis config steps ((ofConfig config).run steps) := by
  have steady := (steady_ofConfig config).run steps
  have counts := counts_run (ofConfig config) steps
  have turns := alternate_crossings (ofConfig config) steps
  obtain ⟨highMark, lowMark⟩ := marks_run (ofConfig config) steps
  refine ⟨⟨config.lowMark_lt_highMark, config.one_le_highMark, config.highMark_le⟩, ?_⟩
  exact
    { highMark, lowMark, steady
      capacity := capacity_run steps
      positive := Nat.zero_lt_of_lt steady.apart
      pauses := steady.pauses_iff
      resumes := steady.resumes_iff
      onlyPauses := crossing_enqueue_ne
      onlyResumes := crossing_dequeue_ne
      dropsSilently := fun _ => steady.crossing_of_refused
      pauseCount := counts.1.trans (Nat.zero_add _)
      resumeCount := counts.2.trans (Nat.zero_add _)
      alternate := turns.1
      pausesFirst := turns.2
      reportedAlternate := fun later kept =>
        reported_eq_crossings _ kept ▸ (alternate_crossings _ later).1 }

end Buffer

end EventHub
