import EventHub.Hub.CloseReason
import EventHub.Relay.Pump

/-!
A relay joins a client's leg and a hub's leg by two pumps. It stops when the first of them ends,
or when the gateway shuts down; then it closes both legs, whatever comes of that. At a shutdown the
client is told why first.
-/

namespace EventHub

inductive Leg where
  | client
  | hub
  deriving DecidableEq

inductive RelayEnd where
  | pump (source : Leg) (ending : PumpEnd)
  | shutdown
  deriving DecidableEq

namespace RelayEnd

def label : RelayEnd → String
  | pump .client .closed => "client_close"
  | pump .hub .closed => "hub_close"
  | pump .client .sourceLost => "client_lost"
  | pump .hub .sourceLost => "hub_lost"
  | pump .client .sinkLost => "hub_write_failed"
  | pump .hub .sinkLost => "client_write_failed"
  | shutdown => "shutdown"

end RelayEnd

inductive RelayPhase where
  | relaying
  /-- The client is being told of the shutdown. -/
  | farewell
  /-- A leg is being closed; the hub's goes first. -/
  | closing (leg : Leg) (ending : RelayEnd)
  | finished (ending : RelayEnd)
  deriving DecidableEq

structure Relay where
  phase : RelayPhase := .relaying
  toHub : Pump UInt16 CloseCode := {}
  toClient : Pump CloseCode UInt16 := {}
  /-- What the client's sink took beside what the hub sent. -/
  goodbye : List ClientFrame := []
  closed : List Leg := []
  deriving DecidableEq

inductive RelayEvent where
  | clientSends (item : Pump.Item UInt16)
  | hubSends (item : Pump.Item CloseCode)
  | fromClient (event : PumpEvent)
  | fromHub (event : PumpEvent)
  | shutdown
  /-- The client's sink took the farewell, or did not. -/
  | farewell (taken : Bool)
  /-- The close of a leg came back; an error from it changes nothing. -/
  | closed
  deriving DecidableEq

namespace Relay

/-- The close frame for clients when the gateway stops. -/
def shutdownClose : ClientFrame :=
  CloseReason.serverShutdown.frame.toFrame

def endWith (relay : Relay) (source : Leg) : Option PumpEnd → Relay
  | some ending => { relay with phase := .closing .hub (.pump source ending) }
  | none => relay

def step (relay : Relay) : RelayEvent → Relay
  | .clientSends item => { relay with toHub := relay.toHub.receive item }
  | .hubSends item => { relay with toClient := relay.toClient.receive item }
  | .fromClient event =>
      match relay.phase with
      | .relaying =>
          let toHub := relay.toHub.step Frame.toHub? event
          { relay with toHub }.endWith .client toHub.ended?
      | _ => relay
  | .fromHub event =>
      match relay.phase with
      | .relaying =>
          let toClient := relay.toClient.step Frame.toClient? event
          { relay with toClient }.endWith .hub toClient.ended?
      | _ => relay
  | .shutdown =>
      match relay.phase with
      | .relaying => { relay with phase := .farewell }
      | _ => relay
  | .farewell taken =>
      match relay.phase with
      | .farewell =>
          { relay with
            phase := .closing .hub .shutdown
            goodbye := if taken then [shutdownClose] else [] }
      | _ => relay
  | .closed =>
      match relay.phase with
      | .closing .hub ending =>
          { relay with phase := .closing .client ending, closed := relay.closed ++ [.hub] }
      | .closing .client ending =>
          { relay with phase := .finished ending, closed := relay.closed ++ [.client] }
      | _ => relay

def steps (relay : Relay) (events : List RelayEvent) : Relay :=
  events.foldl step relay

def run (events : List RelayEvent) : Relay :=
  steps {} events

def isOver (relay : Relay) : Bool :=
  match relay.phase with
  | .finished _ => true
  | .relaying | .farewell | .closing _ _ => false

def framesToClient (relay : Relay) : List ClientFrame :=
  relay.toClient.sent ++ relay.goodbye

end Relay

end EventHub
