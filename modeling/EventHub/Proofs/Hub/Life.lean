import EventHub.Proofs.Hub.Closing
import Mathlib.Logic.Relation

/-!
The life of a connection as a sequence of deeds, done to it by whomever. Its lifecycle only goes
forward, its visible state takes legal steps only, and the first request to close it is the one
that leaves its reason. Whatever the hub does to a connection is such a sequence.
-/

namespace EventHub

def Lifecycle.age : Lifecycle → Nat
  | opened => 0
  | draining => 1
  | closed => 2

namespace CloseCall

/-- The requests to close one connection, with their answers. -/
def drains (id : ConnectionId) (calls : List CloseCall) : List (CloseReason × Bool) :=
  (about id calls).filterMap drain?

variable {id key : ConnectionId} {calls : List CloseCall}

theorem drains_append (id : ConnectionId) (earlier later : List CloseCall) :
    drains id (earlier ++ later) = drains id earlier ++ drains id later := by
  rw [drains, about_append, List.filterMap_append]
  rfl

theorem drains_of_other (own : ∀ call ∈ calls, call.id = key) (different : key ≠ id) :
    drains id calls = [] := by
  rw [drains, about_of_other own different, List.filterMap_nil]

end CloseCall

namespace Connection

inductive Deed where
  | enqueue (payload : Payload)
  | dequeue
  | clear
  | tend (upkeep : Upkeep)
  | beginDraining (reason : CloseReason)
  | markClosed

def undergo (connection : Connection) : Deed → Connection
  | .enqueue payload => ((connection.enqueue? payload).map Prod.fst).getD connection
  | .dequeue => connection.dequeue.1
  | .clear => connection.clear
  | .tend upkeep => upkeep.apply connection
  | .beginDraining reason => (connection.beginDraining reason).1
  | .markClosed => connection.markClosed

def answer? (connection : Connection) : Deed → Option (CloseReason × Bool)
  | .beginDraining reason => some (reason, (connection.beginDraining reason).2)
  | .enqueue _ | .dequeue | .clear | .tend _ | .markClosed => none

/-- From the first connection to the last by these deeds, where the requests to close get these
answers. Only a connection that was asked to close is marked closed. -/
inductive Lives : Connection → List Deed → List (CloseReason × Bool) → Connection → Prop
  | done (connection : Connection) : Lives connection [] [] connection
  | step {connection last : Connection} {deed : Deed} {rest : List Deed}
      {answers : List (CloseReason × Bool)}
      (due : deed = .markClosed → connection.isOpen = false)
      (later : Lives (connection.undergo deed) rest answers last) :
      Lives connection (deed :: rest) ((connection.answer? deed).toList ++ answers) last

/-- At most one step of the lifecycle, and at most one legal step of the visible state. -/
structure Ages (before after : Connection) : Prop where
  lifecycle : after.lifecycle = before.lifecycle ∨
    before.lifecycle = .opened ∧ after.lifecycle = .draining ∨
    before.lifecycle = .draining ∧ after.lifecycle = .closed
  state : after.state = before.state ∨ before.state.canBecome after.state = true

/-- What holds of a connection whose requests to close got these answers. -/
structure Lawful (connection : Connection) (answers : List (CloseReason × Bool)) : Prop where
  paused : connection.state = .paused ↔
    connection.lifecycle = .opened ∧ connection.buffer.paused = true
  cancelled : connection.cancelled = true ↔ connection.isOpen = false
  recorded : ∀ reason, connection.closeReason = some reason ↔ (reason, true) ∈ answers
  refuses : ∀ payload, connection.enqueue? payload = none ↔ connection.isOpen = false
  unmoved : ∀ payload, (connection.undergo (.enqueue payload)).buffer = connection.buffer ↔
    connection.isOpen = false

variable {connection first middle last : Connection} {deeds earlier later : List Deed}
  {answers more : List (CloseReason × Bool)}

theorem undergo_enqueue (connection : Connection) (payload : Payload) :
    connection.undergo (.enqueue payload) = connection.take payload := by
  rw [undergo, enqueue?, take]
  split <;> rfl

theorem isOpen_iff : connection.isOpen = true ↔ connection.lifecycle = .opened := by
  simp [isOpen]

theorem state_paused_iff : connection.state = .paused ↔
    connection.lifecycle = .opened ∧ connection.buffer.paused = true := by
  rw [state]
  cases connection.lifecycle with
  | opened => cases connection.buffer.paused <;> simp
  | draining | closed => simp

theorem enqueue?_eq_none_iff {payload : Payload} :
    connection.enqueue? payload = none ↔ connection.isOpen = false := by
  rw [enqueue?]
  cases connection.isOpen with
  | true => simp
  | false => simp

theorem buffer_enqueue_eq_iff {payload : Payload} :
    (connection.undergo (.enqueue payload)).buffer = connection.buffer ↔
      connection.isOpen = false := by
  rw [undergo_enqueue, take]
  cases connection.isOpen with
  | true => simp [Buffer.enqueue_ne]
  | false => simp

/-! One deed. -/

/-- A buffer that pauses or resumes makes one legal step of an open connection's state, and none of
any other's. -/
theorem ages_of_lifecycle_eq (same : last.lifecycle = first.lifecycle) : first.Ages last := by
  refine ⟨.inl same, ?_⟩
  rw [state, state, same]
  cases first.lifecycle with
  | opened =>
      cases first.buffer.paused <;> cases last.buffer.paused <;>
        simp [ConnectionState.canBecome]
  | draining | closed => exact .inl rfl

theorem ages_beginDraining (connection : Connection) (reason : CloseReason) :
    connection.Ages (connection.beginDraining reason).1 := by
  rw [beginDraining]
  split
  · rename_i opened
    have lifecycle := isOpen_iff.1 opened
    refine ⟨.inr (.inl ⟨lifecycle, rfl⟩), .inr ?_⟩
    rw [state, lifecycle]
    cases connection.buffer.paused <;> rfl
  · exact ages_of_lifecycle_eq rfl

theorem ages_markClosed (closing : connection.isOpen = false) :
    connection.Ages connection.markClosed := by
  cases lifecycle : connection.lifecycle with
  | opened => simp [isOpen, lifecycle] at closing
  | draining =>
      refine ⟨.inr (.inr ⟨lifecycle, rfl⟩), .inr ?_⟩
      rw [state, lifecycle]
      rfl
  | closed => exact ages_of_lifecycle_eq lifecycle.symm

theorem lifecycle_upkeep (upkeep : Upkeep) (connection : Connection) :
    (upkeep.apply connection).lifecycle = connection.lifecycle := by
  obtain ⟨heartbeat, control, attached, finished, applied⟩ := upkeep.apply_eq connection
  rw [applied]

theorem ages_undergo {deed : Deed} (due : deed = .markClosed → connection.isOpen = false) :
    connection.Ages (connection.undergo deed) := by
  cases deed with
  | enqueue payload =>
      rw [undergo_enqueue]
      refine ages_of_lifecycle_eq ?_
      rw [take]
      split <;> rfl
  | dequeue => exact ages_of_lifecycle_eq rfl
  | clear => exact ages_of_lifecycle_eq rfl
  | tend upkeep => exact ages_of_lifecycle_eq (lifecycle_upkeep upkeep connection)
  | beginDraining reason => exact connection.ages_beginDraining reason
  | markClosed => exact ages_markClosed (due rfl)

theorem Ages.age_le (ages : first.Ages last) : first.lifecycle.age ≤ last.lifecycle.age := by
  rcases ages.lifecycle with same | ⟨before, after⟩ | ⟨before, after⟩
  · exact Nat.le_of_eq (congrArg Lifecycle.age same.symm)
  · rw [before, after]
    exact Nat.zero_le 1
  · rw [before, after]
    exact Nat.le_succ 1

/-- A reason on record is there for good, and only a request that starts the close records one. -/
theorem closeReason_undergo (recorded : connection.Recorded) (deed : Deed) (reason : CloseReason) :
    (connection.undergo deed).closeReason = some reason ↔
      connection.closeReason = some reason ∨ connection.answer? deed = some (reason, true) := by
  cases deed with
  | enqueue payload =>
      rw [undergo_enqueue, (sameEnd_take payload connection).closeReason]
      simp [answer?]
  | dequeue | clear | markClosed => simp [undergo, dequeue, clear, markClosed, answer?]
  | tend upkeep =>
      rw [undergo, (upkeep.sameEnd_apply connection).closeReason]
      simp [answer?]
  | beginDraining given =>
      rw [undergo, answer?]
      cases opened : connection.isOpen with
      | true =>
          have unasked : connection.closeReason = none := by
            simpa [recorded.asked, opened] using recorded.given
          obtain ⟨started, becomes⟩ := beginDraining_of_isOpen opened unasked given
          rw [started, becomes, unasked]
          simp
      | false =>
          obtain ⟨late, same⟩ := beginDraining_of_not_isOpen opened given
          rw [late, same]
          simp

theorem recorded_undergo (recorded : connection.Recorded) {deed : Deed}
    (due : deed = .markClosed → connection.isOpen = false) :
    (connection.undergo deed).Recorded := by
  cases deed with
  | enqueue payload =>
      rw [undergo_enqueue, take]
      split <;> exact ⟨recorded.asked, recorded.given⟩
  | dequeue | clear => exact ⟨recorded.asked, recorded.given⟩
  | tend upkeep =>
      obtain ⟨heartbeat, control, attached, finished, applied⟩ := upkeep.apply_eq connection
      rw [undergo, applied]
      exact ⟨recorded.asked, recorded.given⟩
  | beginDraining reason =>
      refine ⟨?_, ?_⟩
      · rw [undergo, cancelled_beginDraining, isOpen_beginDraining]
        rfl
      · rw [undergo, recorded.isSome_beginDraining reason, cancelled_beginDraining]
  | markClosed =>
      have given := recorded.given
      rw [recorded.asked, due rfl] at given
      exact ⟨rfl, given⟩

theorem finished_undergo (finished : connection.finished = true) (deed : Deed) :
    (connection.undergo deed).finished = true := by
  cases deed with
  | enqueue payload =>
      rw [undergo_enqueue, take]
      split <;> exact finished
  | dequeue | clear | markClosed => exact finished
  | tend upkeep =>
      cases upkeep with
      | sendControl message =>
          rw [undergo, Upkeep.apply_sendControl]
          split
          · rename_i sends
            obtain ⟨control, -, rfl⟩ := sendControl_eq_ok sends
            exact finished
          · exact finished
      | receiveControl =>
          simp only [undergo, Upkeep.apply]
          split <;> exact finished
      | finish => rfl
      | _ => exact finished
  | beginDraining reason =>
      rw [undergo, beginDraining]
      split <;> exact finished

theorem claimed_undergo (claimed : connection.control.reader ≠ .waiting) (deed : Deed) :
    (connection.undergo deed).control.reader ≠ .waiting := by
  cases deed with
  | enqueue payload =>
      rw [undergo_enqueue, take]
      split <;> exact claimed
  | dequeue | clear | markClosed => exact claimed
  | tend upkeep =>
      cases upkeep with
      | sendControl message =>
          rw [undergo, Upkeep.apply_sendControl]
          split
          · rename_i sends
            obtain ⟨control, queued, rfl⟩ := sendControl_eq_ok sends
            rw [waiting_send queued]
            exact claimed
          · exact claimed
      | takeReader =>
          rw [undergo, Upkeep.apply, ControlQueue.take?, if_neg claimed]
          exact claimed
      | receiveControl =>
          simp only [undergo, Upkeep.apply, ControlQueue.receive?]
          cases connection.control.waiting with
          | nil => exact claimed
          | cons payload rest => exact claimed
      | dropReader => simp [undergo, Upkeep.apply, ControlQueue.drop]
      | _ => exact claimed
  | beginDraining reason =>
      rw [undergo, beginDraining]
      split <;> exact claimed

/-! Whole lives. -/

namespace Lives

theorem one {deed : Deed} (due : deed = .markClosed → connection.isOpen = false) :
    connection.Lives [deed] (connection.answer? deed).toList (connection.undergo deed) := by
  have lives : connection.Lives [deed] _ (connection.undergo deed) := .step due (.done _)
  rwa [List.append_nil] at lives

theorem trans (before : first.Lives earlier answers middle)
    (after : middle.Lives later more last) :
    first.Lives (earlier ++ later) (answers ++ more) last := by
  induction before with
  | done connection => exact after
  | step due _ ih =>
      rw [List.append_assoc]
      exact .step due (ih after)

theorem ages (lives : first.Lives deeds answers last) : Relation.ReflTransGen Ages first last := by
  induction lives with
  | done connection => exact .refl
  | step due _ ih => exact .head (ages_undergo due) ih

theorem age_le (lives : first.Lives deeds answers last) :
    first.lifecycle.age ≤ last.lifecycle.age := by
  induction lives with
  | done connection => exact Nat.le_refl _
  | step due _ ih => exact Nat.le_trans (ages_undergo due).age_le ih

theorem recorded (lives : first.Lives deeds answers last) (recorded : first.Recorded) :
    last.Recorded := by
  induction lives with
  | done connection => exact recorded
  | step due _ ih => exact ih (recorded_undergo recorded due)

theorem closeReason_iff (lives : first.Lives deeds answers last) (recorded : first.Recorded)
    (reason : CloseReason) :
    last.closeReason = some reason ↔
      first.closeReason = some reason ∨ (reason, true) ∈ answers := by
  induction lives with
  | done connection => simp
  | step due _ ih =>
      rw [ih (recorded_undergo recorded due), closeReason_undergo recorded, List.mem_append,
        Option.mem_toList, or_assoc]

theorem finished (lives : first.Lives deeds answers last) (finished : first.finished = true) :
    last.finished = true := by
  induction lives with
  | done connection => exact finished
  | step _ _ ih => exact ih (finished_undergo finished _)

theorem claimed (lives : first.Lives deeds answers last)
    (claimed : first.control.reader ≠ .waiting) : last.control.reader ≠ .waiting := by
  induction lives with
  | done connection => exact claimed
  | step _ _ ih => exact ih (claimed_undergo claimed _)

theorem lawful {config : HubConfig} {id : ConnectionId} {identity : Identity} {version : UInt32}
    (lives : (create config id identity version).Lives deeds answers last) :
    last.Lawful answers := by
  have fresh : (create config id identity version).Recorded := ⟨rfl, rfl⟩
  have asked := (lives.recorded fresh).asked
  refine ⟨state_paused_iff, ?_, fun reason => ?_, fun _ => enqueue?_eq_none_iff,
    fun _ => buffer_enqueue_eq_iff⟩
  · rw [asked]
    simp
  · rw [lives.closeReason_iff fresh]
    simp [create]

end Lives

end Connection

end EventHub
