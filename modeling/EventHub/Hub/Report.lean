import EventHub.Hub.Connection

/-! What a hub tells its metrics sink. -/

namespace EventHub

/-- The fate of one event: connections that matched, those that took it, buffers that dropped an
older payload for it, and those already closing. -/
structure RouteReport where
  matched : Nat := 0
  delivered : Nat := 0
  dropped : Nat := 0
  skipped : Nat := 0
  deriving DecidableEq

inductive Report where
  | opened (id : ConnectionId)
  | closed (id : ConnectionId) (reason : CloseReason)
  | routed (report : RouteReport)
  | sampled (sample : ConnectionSample)
  | missed (id : ConnectionId) (count : Nat)
  | crossed (id : ConnectionId) (crossing : Crossing)
  deriving DecidableEq

end EventHub
