import EventHub.Hub.Heartbeat
import Mathlib.Data.List.Induction

/-!
A heartbeat over any history of ticks, pongs, pings and last words, at times in any order. The log
of what was done to it and what its ticks have answered tells everything about its next tick.
-/

namespace EventHub.Heartbeat

inductive Step where
  | tick (now : Instant)
  | pong (now : Instant)
  | ping (now : Instant)
  | markDead
  deriving DecidableEq

/-- A step on record, for a tick with its answer. -/
inductive Entry where
  | ticked (now : Instant) (action : TickAction)
  | ponged (now : Instant)
  | pinged (now : Instant)
  | markedDead
  deriving DecidableEq

def Step.apply (config : HeartbeatConfig) (heartbeat : Heartbeat) : Step → Heartbeat
  | tick now => (heartbeat.tick config now).1
  | pong now => heartbeat.recordPong now
  | ping now => heartbeat.recordPing now
  | markDead => heartbeat.markDead

def Step.entry (config : HeartbeatConfig) (heartbeat : Heartbeat) : Step → Entry
  | tick now => .ticked now (heartbeat.tick config now).2
  | pong now => .ponged now
  | ping now => .pinged now
  | markDead => .markedDead

def advance (config : HeartbeatConfig) (state : Heartbeat × List Entry) (step : Step) :
    Heartbeat × List Entry :=
  (step.apply config state.1, step.entry config state.1 :: state.2)

/-- A heartbeat after some steps, and their log, latest first. -/
def replay (config : HeartbeatConfig) (steps : List Step) : Heartbeat × List Entry :=
  steps.foldl (advance config) (start, [])

/-! What a log says, latest entry first. -/

/-- When the ping was sent that still waits for a pong. -/
def waitingSince : List Entry → Option Instant
  | [] | .ponged _ :: _ => none
  | .pinged sent :: _ | .ticked sent .sendPing :: _ => some sent
  | .ticked _ .wait :: rest | .ticked _ .evict :: rest | .markedDead :: rest => waitingSince rest

def isLive : List Entry → Bool
  | [] => true
  | .markedDead :: _ | .ticked _ .evict :: _ => false
  | .ticked _ .wait :: rest | .ticked _ .sendPing :: rest | .ponged _ :: rest
  | .pinged _ :: rest => isLive rest

/-- At this time a ping has waited for its pong for as long as it may. -/
def IsOverdue (config : HeartbeatConfig) (log : List Entry) (now : Instant) : Prop :=
  ∃ sent, waitingSince log = some sent ∧ config.pongTimeout ≤ now - sent

instance (config : HeartbeatConfig) (log : List Entry) (now : Instant) :
    Decidable (IsOverdue config log now) :=
  decidable_of_iff ((waitingSince log).any fun sent => config.pongTimeout ≤ now - sent) (by
    simp [IsOverdue, Option.any_eq_true])

/-- How many ticks since the last pong have found a live heartbeat's ping overdue. -/
def misses (config : HeartbeatConfig) : List Entry → Nat
  | [] | .ponged _ :: _ => 0
  | .ticked now _ :: rest =>
      misses config rest + if isLive rest = true ∧ IsOverdue config rest now then 1 else 0
  | .pinged _ :: rest | .markedDead :: rest => misses config rest

/-- The miss at which a heartbeat is given up. -/
def lastMiss (config : HeartbeatConfig) : Nat :=
  max config.maxMissedPongs.toNat 1

theorem one_le_lastMiss (config : HeartbeatConfig) : 1 ≤ lastMiss config :=
  Nat.le_max_right _ _

theorem lastMiss_lt_size (config : HeartbeatConfig) : lastMiss config < UInt32.size :=
  Nat.max_lt.2 ⟨config.maxMissedPongs.toNat_lt_size, by decide⟩

variable {config : HeartbeatConfig} {heartbeat : Heartbeat} {log : List Entry} {now : Instant}

/-! One tick. -/

/-- Everything a tick can do. -/
inductive Ticks (config : HeartbeatConfig) (now : Instant) (heartbeat : Heartbeat) :
    Heartbeat × TickAction → Prop
  | dead (dead : heartbeat.alive = false) : Ticks config now heartbeat (heartbeat, .evict)
  | waits {sent : Instant} (alive : heartbeat.alive = true)
      (waiting : heartbeat.outstanding = some sent) (young : now - sent < config.pongTimeout) :
      Ticks config now heartbeat (heartbeat, .wait)
  | pings (alive : heartbeat.alive = true) (answered : heartbeat.outstanding = none) :
      Ticks config now heartbeat (heartbeat.recordPing now, .sendPing)
  | misses {sent : Instant} (alive : heartbeat.alive = true)
      (waiting : heartbeat.outstanding = some sent) (due : config.pongTimeout ≤ now - sent)
      (spared : heartbeat.missed + 1 < lastMiss config) :
      Ticks config now heartbeat
        ({ heartbeat with missed := heartbeat.missed + 1 }.recordPing now, .sendPing)
  | gives {sent : Instant} (alive : heartbeat.alive = true)
      (waiting : heartbeat.outstanding = some sent) (due : config.pongTimeout ≤ now - sent)
      (last : lastMiss config ≤ heartbeat.missed + 1) :
      Ticks config now heartbeat
        ({ heartbeat with missed := heartbeat.missed + 1, alive := false }, .evict)

theorem ticks_tick (config : HeartbeatConfig) (heartbeat : Heartbeat) (now : Instant) :
    Ticks config now heartbeat (heartbeat.tick config now) := by
  rw [tick]
  split
  · rename_i dead
    exact .dead (by simpa using dead)
  · rename_i live
    have alive : heartbeat.alive = true := by simpa using live
    split
    · rename_i sent waiting
      split
      · rename_i due
        have due : config.pongTimeout ≤ now - sent := by simpa [overdue] using due
        rw [miss]
        split
        · rename_i last
          exact .gives alive waiting due (by rw [lastMiss]; omega)
        · rename_i spared
          exact .misses alive waiting due (by rw [lastMiss]; omega)
      · rename_i young
        exact .waits alive waiting (by simpa [overdue] using young)
    · rename_i answered
      exact .pings alive answered

/-- A heartbeat is as its log says. -/
structure Matches (config : HeartbeatConfig) (log : List Entry) (heartbeat : Heartbeat) :
    Prop where
  alive : heartbeat.alive = isLive log
  outstanding : heartbeat.outstanding = waitingSince log
  missed : heartbeat.missed = misses config log
  bounded : heartbeat.alive = true → heartbeat.missed < lastMiss config

theorem matches_start (config : HeartbeatConfig) : Matches config [] start :=
  ⟨rfl, rfl, rfl, fun _ => one_le_lastMiss config⟩

theorem Matches.isOverdue_iff (agrees : Matches config log heartbeat) {sent : Instant}
    (waiting : heartbeat.outstanding = some sent) :
    IsOverdue config log now ↔ config.pongTimeout ≤ now - sent := by
  rw [IsOverdue, ← agrees.outstanding, waiting]
  simp

theorem Matches.not_isOverdue (agrees : Matches config log heartbeat)
    (answered : heartbeat.outstanding = none) : ¬IsOverdue config log now := by
  rw [IsOverdue, ← agrees.outstanding, answered]
  simp

namespace Ticks

variable {outcome : Heartbeat × TickAction}

theorem agrees (ticks : Ticks config now heartbeat outcome)
    (agrees : Matches config log heartbeat) :
    Matches config (.ticked now outcome.2 :: log) outcome.1 := by
  have alive_eq := agrees.alive
  cases ticks with
  | dead dead =>
      refine ⟨dead, agrees.outstanding, ?_, agrees.bounded⟩
      rw [agrees.missed, Heartbeat.misses, ← alive_eq, dead]
      simp
  | waits alive waiting young =>
      have inTime : ¬IsOverdue config log now :=
        mt (agrees.isOverdue_iff waiting).1 (Nat.not_le.2 young)
      refine ⟨alive_eq, agrees.outstanding, ?_, agrees.bounded⟩
      rw [agrees.missed, Heartbeat.misses, if_neg fun found => inTime found.2, Nat.add_zero]
  | pings alive answered =>
      refine ⟨alive_eq, rfl, ?_, agrees.bounded⟩
      rw [Heartbeat.misses, if_neg fun found => agrees.not_isOverdue answered found.2,
        Nat.add_zero]
      exact agrees.missed
  | misses alive waiting due spared =>
      have found : isLive log = true ∧ IsOverdue config log now :=
        ⟨alive_eq.symm.trans alive, (agrees.isOverdue_iff waiting).2 due⟩
      refine ⟨alive_eq, rfl, ?_, fun _ => spared⟩
      rw [Heartbeat.misses, if_pos found, ← agrees.missed]
      rfl
  | gives alive waiting due last =>
      have found : isLive log = true ∧ IsOverdue config log now :=
        ⟨alive_eq.symm.trans alive, (agrees.isOverdue_iff waiting).2 due⟩
      refine ⟨rfl, agrees.outstanding, ?_, nofun⟩
      rw [Heartbeat.misses, if_pos found, ← agrees.missed]

theorem evicts_iff (ticks : Ticks config now heartbeat outcome)
    (agrees : Matches config log heartbeat) (alive : heartbeat.alive = true) :
    outcome.2 = .evict ↔
      IsOverdue config log now ∧ Heartbeat.misses config log + 1 = lastMiss config := by
  have below := agrees.bounded alive
  have missed_eq := agrees.missed
  cases ticks with
  | dead dead => cases alive.symm.trans dead
  | waits _ waiting young =>
      have inTime := mt (agrees.isOverdue_iff waiting).1 (Nat.not_le.2 young)
      exact iff_of_false nofun fun last => inTime last.1
  | pings _ answered => exact iff_of_false nofun fun last => agrees.not_isOverdue answered last.1
  | misses _ _ _ spared => exact iff_of_false nofun fun last => by omega
  | gives _ waiting due last =>
      exact iff_of_true rfl ⟨(agrees.isOverdue_iff waiting).2 due, by omega⟩

theorem waits_iff (ticks : Ticks config now heartbeat outcome)
    (agrees : Matches config log heartbeat) (alive : heartbeat.alive = true) :
    outcome.2 = .wait ↔ ∃ sent, waitingSince log = some sent ∧ now - sent < config.pongTimeout := by
  rw [← agrees.outstanding]
  cases ticks with
  | dead dead => cases alive.symm.trans dead
  | waits _ waiting young => exact iff_of_true rfl ⟨_, waiting, young⟩
  | pings _ answered => simp [answered]
  | misses _ waiting due _ | gives _ waiting due _ => simp [waiting, due]

theorem pings_iff (ticks : Ticks config now heartbeat outcome)
    (agrees : Matches config log heartbeat) (alive : heartbeat.alive = true) :
    outcome.2 = .sendPing ↔
      waitingSince log = none ∨
        IsOverdue config log now ∧ Heartbeat.misses config log + 1 < lastMiss config := by
  have missed_eq := agrees.missed
  rw [← agrees.outstanding]
  cases ticks with
  | dead dead => cases alive.symm.trans dead
  | waits _ waiting young =>
      have inTime := mt (agrees.isOverdue_iff waiting).1 (Nat.not_le.2 young)
      simp [waiting, inTime]
  | pings _ answered => exact iff_of_true rfl (.inl answered)
  | misses _ waiting due spared =>
      exact iff_of_true rfl (.inr ⟨(agrees.isOverdue_iff waiting).2 due, by omega⟩)
  | gives _ waiting due last =>
      have spent : ¬Heartbeat.misses config log + 1 < lastMiss config := by omega
      simp [waiting, spent]

theorem unchanged (ticks : Ticks config now heartbeat outcome) (waits : outcome.2 = .wait) :
    outcome.1 = heartbeat := by
  cases ticks with
  | waits _ _ _ => rfl
  | dead _ | pings _ _ | misses _ _ _ _ | gives _ _ _ _ => cases waits

theorem recorded (ticks : Ticks config now heartbeat outcome) (pings : outcome.2 = .sendPing) :
    outcome.1.lastPing = some now ∧ outcome.1.outstanding = some now := by
  cases ticks with
  | pings _ _ | misses _ _ _ _ => exact ⟨rfl, rfl⟩
  | dead _ | waits _ _ _ | gives _ _ _ _ => cases pings

theorem alive_iff (ticks : Ticks config now heartbeat outcome) :
    outcome.1.alive = true ↔ outcome.2 ≠ .evict := by
  cases ticks with
  | dead dead => exact iff_of_false (by simp [dead]) fun kept => kept rfl
  | waits alive _ _ | pings alive _ | misses alive _ _ _ => exact iff_of_true alive nofun
  | gives _ _ _ _ => exact iff_of_false nofun fun kept => kept rfl

theorem stays_dead (ticks : Ticks config now heartbeat outcome) (dead : heartbeat.alive = false) :
    outcome.1.alive = false ∧ outcome.2 = .evict := by
  cases ticks with
  | dead _ => exact ⟨dead, rfl⟩
  | waits alive _ _ | pings alive _ | misses alive _ _ _ | gives alive _ _ _ =>
      cases alive.symm.trans dead

end Ticks

theorem Matches.advance (agrees : Matches config log heartbeat) (step : Step) :
    Matches config (step.entry config heartbeat :: log) (step.apply config heartbeat) := by
  cases step with
  | tick now => exact (ticks_tick config heartbeat now).agrees agrees
  | pong now => exact ⟨agrees.alive, rfl, rfl, fun _ => one_le_lastMiss config⟩
  | ping now => exact ⟨agrees.alive, rfl, agrees.missed, agrees.bounded⟩
  | markDead => exact ⟨rfl, agrees.outstanding, agrees.missed, nofun⟩

/-! Whole histories. -/

theorem replay_concat (config : HeartbeatConfig) (steps : List Step) (step : Step) :
    replay config (steps ++ [step]) = advance config (replay config steps) step :=
  List.foldl_append

theorem matches_replay (config : HeartbeatConfig) (steps : List Step) :
    Matches config (replay config steps).2 (replay config steps).1 := by
  induction steps using List.reverseRecOn with
  | nil => exact matches_start config
  | append_singleton steps step ih =>
      rw [replay_concat]
      exact ih.advance step

theorem alive_foldl_apply (config : HeartbeatConfig) (dead : heartbeat.alive = false)
    (steps : List Step) : (steps.foldl (Step.apply config) heartbeat).alive = false := by
  induction steps generalizing heartbeat with
  | nil => exact dead
  | cons step rest ih =>
      refine ih ?_
      cases step with
      | tick now => exact ((ticks_tick config heartbeat now).stays_dead dead).1
      | pong now | ping now => exact dead
      | markDead => rfl

/-- Whenever there was a tick, the ping that waited at the time was still young. -/
def InTime (config : HeartbeatConfig) (log : List Entry) : Prop :=
  ∀ now action earlier, .ticked now action :: earlier <:+ log →
    ∀ sent, waitingSince earlier = some sent → now - sent < config.pongTimeout

theorem spared_replay (config : HeartbeatConfig) (steps : List Step)
    (unmarked : .markedDead ∉ (replay config steps).2)
    (inTime : InTime config (replay config steps).2) :
    (replay config steps).1.alive = true ∧
      ∀ now, .ticked now .evict ∉ (replay config steps).2 := by
  induction steps using List.reverseRecOn with
  | nil => exact ⟨rfl, fun _ => List.not_mem_nil⟩
  | append_singleton steps step ih =>
      have agrees := matches_replay config steps
      rw [replay_concat] at unmarked inTime ⊢
      rw [advance] at unmarked inTime ⊢
      generalize replay config steps = state at ih agrees unmarked inTime ⊢
      obtain ⟨notNow, notBefore⟩ := not_or.1 (mt List.mem_cons.2 unmarked)
      obtain ⟨alive, unevicted⟩ := ih notBefore fun now action earlier before =>
        inTime now action earlier (before.trans (List.suffix_cons _ _))
      cases step with
      | tick now =>
          have notEvicted : (state.1.tick config now).2 ≠ .evict := by
            rw [ne_eq, (ticks_tick config state.1 now).evicts_iff agrees alive]
            rintro ⟨⟨sent, waiting, due⟩, -⟩
            exact Nat.not_lt.2 due (inTime now _ state.2 (List.suffix_refl _) sent waiting)
          refine ⟨(ticks_tick config state.1 now).alive_iff.2 notEvicted, fun other => ?_⟩
          rw [List.mem_cons, not_or]
          refine ⟨fun same => notEvicted ?_, unevicted other⟩
          exact (Entry.ticked.inj same).2.symm
      | pong now | ping now =>
          exact ⟨alive, fun other => not_or.2 ⟨nofun, unevicted other⟩ ∘ List.mem_cons.1⟩
      | markDead => exact absurd rfl notNow

/-- What a heartbeat and its log have to do with each other, and what the log says about the tick
that comes next. -/
structure Books (config : HeartbeatConfig) (log : List Entry) (heartbeat : Heartbeat) : Prop where
  alive : heartbeat.alive = isLive log
  outstanding : heartbeat.outstanding = waitingSince log
  missed : heartbeat.missed = misses config log
  bounded : heartbeat.alive = true →
    heartbeat.missed < lastMiss config ∧ heartbeat.missed + 1 < UInt32.size
  staysDead : heartbeat.alive = false → ∀ later : List Step,
    (later.foldl (Step.apply config) heartbeat).alive = false ∧
      ∀ now, ((later.foldl (Step.apply config) heartbeat).tick config now).2 = .evict
  evicts_iff : heartbeat.alive = true → ∀ now,
    ((heartbeat.tick config now).2 = .evict ↔
      IsOverdue config log now ∧ misses config log + 1 = lastMiss config)
  waits_iff : heartbeat.alive = true → ∀ now,
    ((heartbeat.tick config now).2 = .wait ↔
      ∃ sent, waitingSince log = some sent ∧ now - sent < config.pongTimeout)
  pings_iff : heartbeat.alive = true → ∀ now,
    ((heartbeat.tick config now).2 = .sendPing ↔
      waitingSince log = none ∨
        IsOverdue config log now ∧ misses config log + 1 < lastMiss config)
  unchanged : ∀ now, (heartbeat.tick config now).2 = .wait →
    (heartbeat.tick config now).1 = heartbeat
  recorded : ∀ now, (heartbeat.tick config now).2 = .sendPing →
    (heartbeat.tick config now).1.lastPing = some now ∧
      (heartbeat.tick config now).1.outstanding = some now
  spared : .markedDead ∉ log → InTime config log →
    heartbeat.alive = true ∧ ∀ now, .ticked now .evict ∉ log

/-- Whatever has been done to a heartbeat, in whatever order of times, its books are in order. -/
theorem books_replay (config : HeartbeatConfig) (steps : List Step) :
    Books config (replay config steps).2 (replay config steps).1 := by
  have agrees := matches_replay config steps
  generalize replay_eq : replay config steps = state at agrees ⊢
  have ticks := ticks_tick config state.1
  refine ⟨agrees.alive, agrees.outstanding, agrees.missed, ?_, ?_,
    fun alive now => (ticks now).evicts_iff agrees alive,
    fun alive now => (ticks now).waits_iff agrees alive,
    fun alive now => (ticks now).pings_iff agrees alive,
    fun now => (ticks now).unchanged, fun now => (ticks now).recorded,
    replay_eq ▸ spared_replay config steps⟩
  · intro alive
    have below := agrees.bounded alive
    exact ⟨below, Nat.lt_of_le_of_lt below (lastMiss_lt_size config)⟩
  · intro dead later
    have deadLater := alive_foldl_apply config dead later
    exact ⟨deadLater, fun now => ((ticks_tick config _ now).stays_dead deadLater).2⟩

end EventHub.Heartbeat
