import EventHub.Decimal.Double

/-! Tunables of a hub. Times are in milliseconds. -/

namespace EventHub

structure BufferConfig where
  capacity : Nat := 1000
  highWatermark : Decimal.Double := ⟨0x3FE999999999999A⟩
  lowWatermark : Decimal.Double := ⟨0x3FE0000000000000⟩
  deriving DecidableEq

/-- A queue of no room is given room for one. -/
def atLeastOne (capacity : Nat) : Nat :=
  max capacity 1

namespace BufferConfig

/-- A share of the capacity, a half rounded away from zero; no number counts as zero. -/
def share (config : BufferConfig) (ratio : Decimal.Double) : Nat :=
  ((UInt64.ofNat config.capacity).toFloat * ratio.toFloat).round.toUInt64.toNat

def highMark (config : BufferConfig) : Nat :=
  min (max (config.share config.highWatermark) 1) (atLeastOne config.capacity)

def lowMark (config : BufferConfig) : Nat :=
  min (config.share config.lowWatermark) (config.highMark - 1)

def effective (config : BufferConfig) : BufferConfig :=
  { config with capacity := atLeastOne config.capacity }

theorem one_le_highMark (config : BufferConfig) : 1 ≤ config.highMark := by
  simp only [highMark, atLeastOne]
  omega

theorem highMark_le (config : BufferConfig) : config.highMark ≤ atLeastOne config.capacity := by
  simp only [highMark]
  omega

theorem lowMark_lt_highMark (config : BufferConfig) : config.lowMark < config.highMark := by
  have := config.one_le_highMark
  simp only [lowMark]
  omega

end BufferConfig

structure HeartbeatConfig where
  interval : Nat := 30000
  pongTimeout : Nat := 10000
  maxMissedPongs : UInt32 := 3
  deriving DecidableEq

structure HubConfig where
  maxConnections : Nat := 10000
  maxSubscriptions : Nat := 100
  buffer : BufferConfig := {}
  heartbeat : HeartbeatConfig := {}
  /-- How long the send loop rests when it has nothing to write. -/
  idlePoll : Nat := 25
  drainTimeout : Nat := 1000
  teardownGrace : Nat := 5000
  controlQueue : Nat := 32
  ingestCapacity : Nat := 4096
  deriving DecidableEq

def defaultProtocolVersion : UInt32 := 1

def supportedProtocolVersions : List UInt32 := [1]

end EventHub
