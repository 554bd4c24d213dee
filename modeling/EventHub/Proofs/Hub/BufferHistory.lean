import EventHub.Proofs.Hub.Keeping
import Mathlib.Data.List.DropRight

/-!
A buffer over any enqueues, dequeues and clears. Payloads leave it at the front only, to be sent or
to be lost, so what it holds is always the end of all that went in.
-/

namespace EventHub

inductive Buffer.Step where
  | enqueue (payload : Payload)
  | dequeue
  | clear
  deriving DecidableEq

def Buffer.Step.apply (buffer : Buffer) : Buffer.Step → Buffer
  | .enqueue payload => (buffer.enqueue payload).1
  | .dequeue => buffer.dequeue.1
  | .clear => buffer.clear

namespace Buffer

namespace Step

/-- What the step puts in. -/
def entering : Step → List Payload
  | enqueue payload => [payload]
  | dequeue | clear => []

/-- What the step hands out. -/
def taken (buffer : Buffer) : Step → List Payload
  | dequeue => (buffer.dequeue.2.map Dequeued.payload).toList
  | enqueue _ | clear => []

/-- What is lost in the step: the oldest payload of a full buffer, or all that is cleared. -/
def lost (buffer : Buffer) : Step → List Payload
  | enqueue payload => if (buffer.enqueue payload).2.accepted then [] else buffer.queue.take 1
  | dequeue => []
  | clear => buffer.queue

/-- The step on a mere queue that is cut to its last `capacity` payloads. -/
def onQueue (capacity : Nat) (queue : List Payload) : Step → List Payload
  | enqueue payload => (queue ++ [payload]).rtake capacity
  | dequeue => queue.tail
  | clear => []

end Step

def run (buffer : Buffer) (steps : List Step) : Buffer :=
  steps.foldl Step.apply buffer

/-- What the steps of a run yield, one after the other. -/
def gather {α : Type} (yield : Buffer → Step → List α) : Buffer → List Step → List α
  | _, [] => []
  | buffer, step :: rest => yield buffer step ++ gather yield (step.apply buffer) rest

section Gather

variable {α : Type} {yield other : Buffer → Step → List α}

theorem gather_sublist (within : ∀ buffer step, (yield buffer step).Sublist (other buffer step))
    (buffer : Buffer) (steps : List Step) :
    (gather yield buffer steps).Sublist (gather other buffer steps) := by
  induction steps generalizing buffer with
  | nil => exact List.Sublist.refl []
  | cons step rest ih => exact (within buffer step).append (ih (step.apply buffer))

theorem length_gather_append (buffer : Buffer) (steps : List Step) :
    (gather (fun buffer step => yield buffer step ++ other buffer step) buffer steps).length =
      (gather yield buffer steps).length + (gather other buffer steps).length := by
  induction steps generalizing buffer with
  | nil => rfl
  | cons step rest ih =>
      simp only [gather, List.length_append, ih]
      omega

end Gather

variable {buffer : Buffer}

theorem accepted_eq_false_iff {payload : Payload} :
    (buffer.enqueue payload).2.accepted = false ↔ buffer.capacity ≤ buffer.depth := by
  simp [enqueue, isFull]

theorem queue_enqueue_eq (payload : Payload) :
    (buffer.enqueue payload).1.queue =
      (if (buffer.enqueue payload).2.accepted then buffer.queue else buffer.queue.tail) ++
        [payload] := by
  have accepted : (buffer.enqueue payload).2.accepted = !buffer.isFull := rfl
  rw [queue_enqueue, makeRoom, accepted]
  cases buffer.isFull with
  | false => rfl
  | true => rfl

theorem dropped_enqueue_eq (payload : Payload) :
    (buffer.enqueue payload).1.dropped =
      buffer.dropped + if (buffer.enqueue payload).2.accepted then 0 else 1 := by
  have accepted : (buffer.enqueue payload).2.accepted = !buffer.isFull := rfl
  rw [dropped_enqueue, makeRoom, accepted]
  cases buffer.isFull with
  | false => rfl
  | true => rfl

theorem queue_dequeue : buffer.dequeue.1.queue = buffer.queue.tail := by
  cases waiting : buffer.queue with
  | nil => simp [dequeue, waiting]
  | cons payload rest =>
      simp only [dequeue, waiting, checkLow]
      split <;> rfl

theorem dropped_dequeue : buffer.dequeue.1.dropped = buffer.dropped := by
  rw [dequeue]
  split
  · rfl
  · simp only [checkLow]
    split <;> rfl

theorem payload_dequeue : buffer.dequeue.2.map Dequeued.payload = buffer.queue.head? := by
  cases waiting : buffer.queue with
  | nil => simp [dequeue, waiting]
  | cons payload rest => simp [dequeue, waiting]

/-- There is room for something, and not more in it than there is room for. -/
structure Bounded (buffer : Buffer) : Prop where
  roomy : 0 < buffer.capacity
  within : buffer.depth ≤ buffer.capacity

theorem bounded_ofConfig (config : BufferConfig) : (ofConfig config).Bounded :=
  ⟨capacity_ofConfig_pos config, Nat.zero_le _⟩

theorem capacity_apply (step : Step) : (step.apply buffer).capacity = buffer.capacity := by
  cases step with
  | enqueue payload => exact buffer.capacity_enqueue payload
  | dequeue => exact buffer.capacity_dequeue
  | clear => rfl

theorem capacity_run (steps : List Step) : (buffer.run steps).capacity = buffer.capacity := by
  induction steps generalizing buffer with
  | nil => rfl
  | cons step rest ih => exact ih.trans (capacity_apply step)

namespace Bounded

theorem accepted_eq_false_iff (bounded : buffer.Bounded) (payload : Payload) :
    (buffer.enqueue payload).2.accepted = false ↔ buffer.depth = buffer.capacity := by
  have within := bounded.within
  rw [Buffer.accepted_eq_false_iff]
  omega

/-- A full buffer has an oldest payload. -/
theorem queue_of_refused (bounded : buffer.Bounded) {payload : Payload}
    (refused : (buffer.enqueue payload).2.accepted = false) :
    ∃ oldest rest, buffer.queue = oldest :: rest ∧ rest.length + 1 = buffer.capacity := by
  have roomy := bounded.roomy
  have full := (bounded.accepted_eq_false_iff payload).1 refused
  cases queue : buffer.queue with
  | nil =>
      rw [depth, queue] at full
      exact absurd full roomy.ne
  | cons oldest rest =>
      rw [depth, queue] at full
      exact ⟨oldest, rest, rfl, full⟩

theorem depth_of_accepted (bounded : buffer.Bounded) {payload : Payload}
    (accepted : (buffer.enqueue payload).2.accepted = true) : buffer.depth < buffer.capacity := by
  have unfilled : ¬buffer.depth = buffer.capacity := by
    rw [← bounded.accepted_eq_false_iff payload, accepted]
    exact Bool.noConfusion
  exact lt_of_le_of_ne bounded.within unfilled

/-- The queue is the one that a plain queue of that capacity would be. -/
theorem queue_apply (bounded : buffer.Bounded) (step : Step) :
    (step.apply buffer).queue = step.onQueue buffer.capacity buffer.queue := by
  cases step with
  | enqueue payload =>
      rw [Step.apply, Step.onQueue, queue_enqueue_eq, List.rtake]
      cases accepted : (buffer.enqueue payload).2.accepted with
      | false =>
          obtain ⟨oldest, rest, queue, full⟩ := bounded.queue_of_refused accepted
          simp [queue, ← full]
      | true =>
          have free := bounded.depth_of_accepted accepted
          have short : (buffer.queue ++ [payload]).length - buffer.capacity = 0 := by
            rw [depth] at free
            rw [List.length_append, List.length_singleton]
            omega
          rw [short]
          rfl
  | dequeue => exact queue_dequeue
  | clear => rfl

theorem depth_enqueue (bounded : buffer.Bounded) (payload : Payload) :
    (buffer.enqueue payload).1.depth = min (buffer.depth + 1) buffer.capacity := by
  have queue := bounded.queue_apply (.enqueue payload)
  rw [Step.apply, Step.onQueue, List.rtake] at queue
  rw [depth, queue, List.length_drop, List.length_append, List.length_singleton, depth]
  omega

theorem apply (bounded : buffer.Bounded) (step : Step) : (step.apply buffer).Bounded := by
  have within := bounded.within
  refine ⟨(capacity_apply step).symm ▸ bounded.roomy, ?_⟩
  rw [capacity_apply]
  cases step with
  | enqueue payload => exact (bounded.depth_enqueue payload).le.trans (Nat.min_le_right _ _)
  | dequeue =>
      rw [Step.apply, depth, queue_dequeue, List.length_tail]
      exact (Nat.sub_le _ _).trans within
  | clear => exact Nat.zero_le _

theorem run (bounded : buffer.Bounded) (steps : List Step) : (buffer.run steps).Bounded := by
  induction steps generalizing buffer with
  | nil => exact bounded
  | cons step rest ih => exact ih (bounded.apply step)

theorem queue_run (bounded : buffer.Bounded) (steps : List Step) :
    (buffer.run steps).queue = steps.foldl (Step.onQueue buffer.capacity) buffer.queue := by
  induction steps generalizing buffer with
  | nil => rfl
  | cons step rest ih =>
      have later := ih (bounded.apply step)
      rw [capacity_apply, bounded.queue_apply] at later
      exact later

theorem dropped_apply (bounded : buffer.Bounded) (step : Step) :
    (step.apply buffer).dropped = buffer.dropped + (step.lost buffer).length := by
  cases step with
  | enqueue payload =>
      rw [Step.apply, dropped_enqueue_eq, Step.lost]
      cases accepted : (buffer.enqueue payload).2.accepted with
      | false =>
          obtain ⟨oldest, rest, queue, full⟩ := bounded.queue_of_refused accepted
          simp [queue]
      | true => rfl
  | dequeue => exact dropped_dequeue
  | clear => rfl

theorem dropped_run (bounded : buffer.Bounded) (steps : List Step) :
    (buffer.run steps).dropped = buffer.dropped + (gather Step.lost buffer steps).length := by
  induction steps generalizing buffer with
  | nil => rfl
  | cons step rest ih =>
      have later := ih (bounded.apply step)
      rw [bounded.dropped_apply] at later
      rw [gather, List.length_append, ← Nat.add_assoc]
      exact later

end Bounded

/-- All that leaves the buffer in a step. -/
def Step.leaving (buffer : Buffer) (step : Step) : List Payload :=
  step.taken buffer ++ step.lost buffer

theorem flow_apply (step : Step) :
    buffer.queue ++ step.entering = step.leaving buffer ++ (step.apply buffer).queue := by
  cases step with
  | enqueue payload =>
      simp only [Step.entering, Step.leaving, Step.taken, Step.lost, Step.apply, queue_enqueue_eq]
      cases (buffer.enqueue payload).2.accepted with
      | false => cases buffer.queue <;> rfl
      | true => rfl
  | dequeue =>
      simp only [Step.entering, Step.leaving, Step.taken, Step.lost, Step.apply, payload_dequeue,
        queue_dequeue]
      cases buffer.queue <;> simp
  | clear => rfl

/-- What left the buffer, followed by what is still in it, is what was in it and what went in. -/
theorem flow_run (buffer : Buffer) (steps : List Step) :
    buffer.queue ++ steps.flatMap Step.entering =
      gather Step.leaving buffer steps ++ (buffer.run steps).queue := by
  induction steps generalizing buffer with
  | nil => exact List.append_nil _
  | cons step rest ih =>
      calc buffer.queue ++ (step :: rest).flatMap Step.entering
          = buffer.queue ++ step.entering ++ rest.flatMap Step.entering := by
            rw [List.flatMap_cons, List.append_assoc]
        _ = step.leaving buffer ++
              ((step.apply buffer).queue ++ rest.flatMap Step.entering) := by
            rw [flow_apply, List.append_assoc]
        _ = step.leaving buffer ++ (gather Step.leaving (step.apply buffer) rest ++
              ((step.apply buffer).run rest).queue) := by rw [ih]
        _ = gather Step.leaving buffer (step :: rest) ++ (buffer.run (step :: rest)).queue :=
            (List.append_assoc _ _ _).symm

/-- The buffer is a queue of at most `capacity` payloads in which the oldest makes room for the
newest, with right books on what went in, what was taken out and what was lost. -/
structure DropsOldest (capacity : Nat) (entered taken lost : List Payload) (buffer : Buffer) :
    Prop where
  bounded : buffer.depth ≤ capacity
  retained : buffer.queue = entered.rtake buffer.depth
  inOrder : taken.Sublist entered
  balance : entered.length = taken.length + buffer.dropped + buffer.depth
  losses : buffer.dropped = lost.length
  refuses : ∀ payload, (buffer.enqueue payload).2.accepted = false ↔ buffer.depth = capacity
  dropsOne : ∀ payload, (buffer.enqueue payload).2.accepted = false →
    ∃ oldest rest, buffer.queue = oldest :: rest ∧
      (buffer.enqueue payload).1.queue = rest ++ [payload]
  appends : ∀ payload, (buffer.enqueue payload).2.accepted = true →
    (buffer.enqueue payload).1.queue = buffer.queue ++ [payload]
  handsOut : buffer.dequeue.2.map Dequeued.payload = buffer.queue.head? ∧
    buffer.dequeue.1.queue = buffer.queue.tail

/-- After any steps a new buffer holds what a plain queue of its capacity would hold, and counts
rightly what it does not hold any more. -/
theorem dropsOldest_run (config : BufferConfig) (steps : List Step) :
    ((ofConfig config).run steps).DropsOldest (atLeastOne config.capacity)
        (steps.flatMap Step.entering) (gather Step.taken (ofConfig config) steps)
        (gather Step.lost (ofConfig config) steps) ∧
      ((ofConfig config).run steps).queue =
        steps.foldl (Step.onQueue (atLeastOne config.capacity)) [] := by
  have bounded := (bounded_ofConfig config).run steps
  have capacity : ((ofConfig config).run steps).capacity = atLeastOne config.capacity :=
    capacity_run steps
  have flow : steps.flatMap Step.entering = gather Step.leaving (ofConfig config) steps ++
      ((ofConfig config).run steps).queue := flow_run (ofConfig config) steps
  have dropped : ((ofConfig config).run steps).dropped =
      (gather Step.lost (ofConfig config) steps).length := by
    rw [(bounded_ofConfig config).dropped_run, ofConfig, Nat.zero_add]
  have taken : (gather Step.taken (ofConfig config) steps).Sublist
      (gather Step.leaving (ofConfig config) steps) :=
    gather_sublist (fun buffer step => List.sublist_append_left _ _) _ steps
  have leaving : (gather Step.leaving (ofConfig config) steps).length =
      (gather Step.taken (ofConfig config) steps).length +
        (gather Step.lost (ofConfig config) steps).length := length_gather_append _ steps
  refine ⟨?_, (bounded_ofConfig config).queue_run steps⟩
  refine
    { bounded := capacity ▸ bounded.within
      retained := ?_
      inOrder := ?_
      balance := ?_
      losses := dropped
      refuses := fun payload => capacity ▸ bounded.accepted_eq_false_iff payload
      dropsOne := ?_
      appends := ?_
      handsOut := ⟨payload_dequeue, queue_dequeue⟩ }
  · rw [flow, List.rtake, List.length_append, depth, Nat.add_sub_cancel, List.drop_left]
  · rw [flow]
    exact taken.trans (List.sublist_append_left _ _)
  · rw [flow, List.length_append, leaving, dropped, depth]
  · intro payload refused
    obtain ⟨oldest, rest, queue, full⟩ := bounded.queue_of_refused refused
    refine ⟨oldest, rest, queue, ?_⟩
    rw [queue_enqueue_eq, refused, queue]
    rfl
  · intro payload accepted
    rw [queue_enqueue_eq, accepted]
    rfl

end Buffer

end EventHub
