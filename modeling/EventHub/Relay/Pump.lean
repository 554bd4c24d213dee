import EventHub.Relay.Frame

/-!
One direction of a relay. A pump takes a frame from its source and hands it to its sink, and does
not take the next before the sink is done with it. It ends when a close frame has passed, or when
either side fails.
-/

namespace EventHub

inductive PumpEnd where
  | closed
  | sourceLost
  | sinkLost
  deriving DecidableEq

inductive PumpPhase (ν : Type) where
  | reading
  /-- The sink has not taken the frame yet. -/
  | handing (item : Relayed ν)
  /-- The sink has the frame and is writing it out. -/
  | flushing (last : Bool)
  | finished (ending : PumpEnd)
  deriving DecidableEq

inductive Pump.Item (κ : Type) where
  | frame (frame : Frame κ)
  | failure
  deriving DecidableEq

structure Pump (κ ν : Type) where
  phase : PumpPhase ν := .reading
  unread : List (Pump.Item κ) := []
  sent : List (Frame ν) := []
  deriving DecidableEq

inductive PumpEvent where
  | reads
  | taken
  | flushed
  | sinkLost
  deriving DecidableEq

namespace Pump

variable {κ ν : Type}

def receive (pump : Pump κ ν) (item : Item κ) : Pump κ ν :=
  { pump with unread := pump.unread ++ [item] }

/-- An event that does not concern the phase changes nothing. -/
def step (convert : Frame κ → Option (Relayed ν)) (pump : Pump κ ν) : PumpEvent → Pump κ ν
  | .reads =>
      match pump.phase, pump.unread with
      | .reading, .frame frame :: rest =>
          match convert frame with
          | some item => { pump with phase := .handing item, unread := rest }
          | none => { pump with unread := rest }
      | .reading, .failure :: rest => { pump with phase := .finished .sourceLost, unread := rest }
      | _, _ => pump
  | .taken =>
      match pump.phase with
      | .handing item =>
          { pump with phase := .flushing item.last, sent := pump.sent ++ [item.frame] }
      | _ => pump
  | .flushed =>
      match pump.phase with
      | .flushing last => { pump with phase := if last then .finished .closed else .reading }
      | _ => pump
  | .sinkLost =>
      match pump.phase with
      | .handing _ | .flushing _ => { pump with phase := .finished .sinkLost }
      | _ => pump

def ended? (pump : Pump κ ν) : Option PumpEnd :=
  match pump.phase with
  | .finished ending => some ending
  | _ => none

/-- Everything a pump hands over from a source that ends at the last item, and how it ends; the sink
takes `room` frames, or all. -/
def run (convert : Frame κ → Option (Relayed ν)) (room : Option Nat) :
    List (Item κ) → List (Frame ν) × PumpEnd
  | [] => ([], .sourceLost)
  | .failure :: _ => ([], .sourceLost)
  | .frame frame :: rest =>
      match convert frame with
      | none => run convert room rest
      | some item =>
          if room = some 0 then ([], .sinkLost)
          else if item.last then ([item.frame], .closed)
          else
            let (sent, ending) := run convert (room.map Nat.pred) rest
            (item.frame :: sent, ending)

end Pump

end EventHub
