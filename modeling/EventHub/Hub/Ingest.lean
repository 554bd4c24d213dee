import EventHub.Hub.Error
import EventHub.Hub.Event
import EventHub.Hub.Config

/-! The bounded queue between producers and the router. -/

namespace EventHub

structure IngestQueue where
  capacity : Nat
  waiting : List Event := []
  isOpen : Bool := true

namespace IngestQueue

def ofCapacity (capacity : Nat) : IngestQueue where
  capacity := atLeastOne capacity

def hasRoom (queue : IngestQueue) : Bool :=
  queue.waiting.length < queue.capacity

def publish (queue : IngestQueue) (event : Event) : Except HubError IngestQueue :=
  if !queue.isOpen then .error .ingestClosed
  else if queue.hasRoom then .ok { queue with waiting := queue.waiting ++ [event] }
  else .error .ingestFull

def next? (queue : IngestQueue) : Option (Event × IngestQueue) :=
  match queue.waiting with
  | [] => none
  | event :: rest => some (event, { queue with waiting := rest })

/-- Without a router nothing waits and nothing more comes in. -/
def close (queue : IngestQueue) : IngestQueue :=
  { queue with waiting := [], isOpen := false }

end IngestQueue

end EventHub
