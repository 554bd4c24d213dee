import EventHub.Relay.Frame

/-! Why the hub closes a connection, and what the client is told about it. -/

namespace EventHub

structure CloseFrame where
  code : UInt16
  reason : String
  deriving DecidableEq

def CloseFrame.toFrame (frame : CloseFrame) : ClientFrame :=
  .close (some (frame.code, frame.reason))

inductive CloseReason where
  | authenticationFailed
  | heartbeatTimeout
  | serverShutdown
  | clientInitiated
  | capacityExceeded
  | serverUnavailable
  deriving DecidableEq

namespace CloseReason

def code : CloseReason → UInt16
  | authenticationFailed | heartbeatTimeout => 1008
  | serverShutdown => 1001
  | clientInitiated => 1000
  | capacityExceeded => 1013
  | serverUnavailable => 1011

def text : CloseReason → String
  | authenticationFailed => "authentication_failed"
  | heartbeatTimeout => "heartbeat_timeout"
  | serverShutdown => "server_shutdown"
  | clientInitiated => "client_closed"
  | capacityExceeded => "capacity_exceeded"
  | serverUnavailable => "server_unavailable"

def frame (reason : CloseReason) : CloseFrame where
  code := reason.code
  reason := reason.text

end CloseReason

end EventHub
