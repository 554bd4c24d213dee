import EventHub.Proofs.Hub.SubscriptionHistory

/-!
Subscription commands of several connections at once. A command reads and changes the holding of
its own connection only, so each connection gets the answers that its own commands would get without
the others, and the order in which different connections come leaves no trace in the index.
-/

namespace EventHub

namespace SubscriptionIndex

def Operation.connection : Operation → ConnectionId
  | .subscribe id _ _ | .subscribeMany id _ _ | .unsubscribe id _ | .unsubscribeAll id => id

/-- What an operation returns to its caller. -/
inductive Answer where
  | refused (cause : HubError)
  | stored (isNew : Bool)
  | added (count : Nat)
  | removed (wasPresent : Bool)
  | cleared (count : Nat)
  deriving DecidableEq

def answer (cap : Nat) (index : SubscriptionIndex) : Operation → Answer
  | .subscribe id eventType filter =>
      match index.subscribe cap id eventType filter with
      | .ok (_, isNew) => .stored isNew
      | .error cause => .refused cause
  | .subscribeMany id eventTypes filter =>
      match index.subscribeMany cap id eventTypes filter with
      | .ok (_, count) => .added count
      | .error cause => .refused cause
  | .unsubscribe id eventType => .removed (index.unsubscribe id eventType).2
  | .unsubscribeAll id => .cleared (index.unsubscribeAll id).2

/-- The operations of a run, each with its answer. -/
def transcript (cap : Nat) : SubscriptionIndex → List Operation → List (Operation × Answer)
  | _, [] => []
  | index, operation :: rest =>
      (operation, index.answer cap operation) :: transcript cap (index.apply cap operation) rest

/-- One order in which everybody's operations can come, given the sequence of each connection. -/
def Interleaves (scripts : ConnectionId → List Operation) (operations : List Operation) : Prop :=
  ∀ id, (operations.filter fun operation => operation.connection = id) = scripts id

/-- Two indexes that answer every question alike, up to the order of a list. -/
structure Alike (left right : SubscriptionIndex) : Prop where
  matching : ∀ eventType cluster,
    (left.matching eventType cluster).Perm (right.matching eventType cluster)
  subscriptionsOf : ∀ id, (left.subscriptionsOf id).Perm (right.subscriptionsOf id)
  references : ∀ id, left.references id = right.references id
  countFor : ∀ id, left.countFor id = right.countFor id
  size : left.size = right.size
  isEmpty : left.isEmpty = right.isEmpty

end SubscriptionIndex

/-! One connection's share of a command. -/

namespace Holding

open SubscriptionIndex (Operation Answer)

def apply (cap : Nat) (holding : Holding) : Operation → Holding
  | .subscribe _ eventType filter =>
      if holding.fits cap [eventType] then holding.insertAll filter [eventType] else holding
  | .subscribeMany _ eventTypes filter =>
      if holding.fits cap eventTypes then holding.insertAll filter eventTypes else holding
  | .unsubscribe _ eventType => holding.erase eventType
  | .unsubscribeAll _ => holding.clear

def answer (cap : Nat) (holding : Holding) : Operation → Answer
  | .subscribe _ eventType _ =>
      if holding.fits cap [eventType] then .stored ((holding.newTypes [eventType]).size == 1)
      else .refused (.subscriptionLimitExceeded cap)
  | .subscribeMany _ eventTypes _ =>
      if holding.fits cap eventTypes then .added (holding.newTypes eventTypes).size
      else .refused (.subscriptionLimitExceeded cap)
  | .unsubscribe _ eventType => .removed (holding.filter eventType).isSome
  | .unsubscribeAll _ => .cleared holding.held.size

/-- The operations of one connection by themselves, each with its answer. -/
def transcript (cap : Nat) : Holding → List Operation → List (Operation × Answer)
  | _, [] => []
  | holding, operation :: rest =>
      (operation, holding.answer cap operation) ::
        transcript cap (holding.apply cap operation) rest

end Holding

namespace SubscriptionIndex

variable {left right : SubscriptionIndex} {map : SubscriptionMap}

theorem apply_subscribeMany (cap : Nat) (index : SubscriptionIndex) (id : ConnectionId)
    (eventTypes : List EventType) (filter : ClusterFilter) :
    index.apply cap (.subscribeMany id eventTypes filter) =
      if (index.holding id).fits cap eventTypes then
        eventTypes.foldl (fun index eventType => index.insert id filter eventType) index
      else index := by
  rw [apply, subscribeMany_eq]
  by_cases fits : (index.holding id).fits cap eventTypes = true
  · simp only [if_pos fits]
  · simp only [if_neg fits]

theorem apply_subscribe (cap : Nat) (index : SubscriptionIndex) (id : ConnectionId)
    (eventType : EventType) (filter : ClusterFilter) :
    index.apply cap (.subscribe id eventType filter) =
      index.apply cap (.subscribeMany id [eventType] filter) := by
  simp only [apply, subscribe]
  cases index.subscribeMany cap id [eventType] filter with
  | ok accepted => rfl
  | error cause => rfl

/-- An operation is about its own connection's holding. -/
theorem holding_apply (cap : Nat) (index : SubscriptionIndex) (operation : Operation)
    (other : ConnectionId) :
    (index.apply cap operation).holding other =
      if other = operation.connection then
        (index.holding operation.connection).apply cap operation
      else index.holding other := by
  have many (id : ConnectionId) (eventTypes : List EventType) (filter : ClusterFilter) :
      (index.apply cap (.subscribeMany id eventTypes filter)).holding other =
        if other = id then
          if (index.holding id).fits cap eventTypes then
            (index.holding id).insertAll filter eventTypes
          else index.holding id
        else index.holding other := by
    rw [apply_subscribeMany]
    by_cases fits : (index.holding id).fits cap eventTypes = true
    · rw [if_pos fits, if_pos fits, holding_insertAll]
    · rw [if_neg fits, if_neg fits]
      split
      · rename_i own
        rw [own]
      · rfl
  cases operation with
  | subscribe id eventType filter =>
      rw [apply_subscribe]
      exact many id [eventType] filter
  | subscribeMany id eventTypes filter => exact many id eventTypes filter
  | unsubscribe id eventType => exact index.holding_erase id eventType other
  | unsubscribeAll id => exact index.holding_unsubscribeAll id other

theorem answer_eq (cap : Nat) (index : SubscriptionIndex) (operation : Operation) :
    index.answer cap operation = (index.holding operation.connection).answer cap operation := by
  cases operation with
  | subscribe id eventType filter =>
      rw [answer, Operation.connection, Holding.answer, subscribe, subscribeMany_eq]
      by_cases fits : (index.holding id).fits cap [eventType] = true
      · rw [if_pos fits, if_pos fits]
        rfl
      · rw [if_neg fits, if_neg fits]
        rfl
  | subscribeMany id eventTypes filter =>
      rw [answer, Operation.connection, Holding.answer, subscribeMany_eq]
      by_cases fits : (index.holding id).fits cap eventTypes = true
      · rw [if_pos fits, if_pos fits]
      · rw [if_neg fits, if_neg fits]
  | unsubscribe id eventType => rfl
  | unsubscribeAll id => rfl

/-- Of a whole run, one connection's holding shows that connection's own operations. -/
theorem holding_foldl_apply (cap : Nat) (index : SubscriptionIndex) (operations : List Operation)
    (id : ConnectionId) :
    (operations.foldl (apply cap) index).holding id =
      (operations.filter fun operation => operation.connection = id).foldl (Holding.apply cap)
        (index.holding id) := by
  induction operations generalizing index with
  | nil => rfl
  | cons operation rest ih =>
      rw [List.foldl_cons, ih, holding_apply]
      by_cases own : operation.connection = id
      · rw [if_pos own.symm, List.filter_cons_of_pos (by simpa using own), List.foldl_cons, own]
      · rw [if_neg (Ne.symm own), List.filter_cons_of_neg (by simpa using own)]

theorem transcript_own (cap : Nat) (index : SubscriptionIndex) (operations : List Operation)
    (id : ConnectionId) :
    ((index.transcript cap operations).filter fun entry => entry.1.connection = id) =
      (index.holding id).transcript cap
        (operations.filter fun operation => operation.connection = id) := by
  induction operations generalizing index with
  | nil => rfl
  | cons operation rest ih =>
      have later := ih (index.apply cap operation)
      rw [holding_apply] at later
      rw [transcript]
      by_cases own : operation.connection = id
      · rw [if_pos own.symm, own] at later
        rw [List.filter_cons_of_pos (by simpa using own), later,
          List.filter_cons_of_pos (by simpa using own), Holding.transcript, answer_eq, own]
      · rw [if_neg (Ne.symm own)] at later
        rw [List.filter_cons_of_neg (by simpa using own), later,
          List.filter_cons_of_neg (by simpa using own)]

/-- Indexes are views of one map as soon as every connection holds the same in both. -/
theorem Refines.of_holding (refines : left.Refines map) {other : SubscriptionMap}
    (refinesOther : right.Refines other) (same : ∀ id, left.holding id = right.holding id) :
    right.Refines map := by
  have map_eq : other = map := by
    apply Finmap.ext_lookup
    rintro ⟨id, eventType⟩
    rw [← refinesOther.byType, ← refines.byType]
    exact (congrFun (congrArg Holding.filter (same id)) eventType).symm
  exact map_eq ▸ refinesOther

/-- The map decides every answer, so two views of it answer alike. -/
theorem Refines.alike (refines : left.Refines map) (refinesRight : right.Refines map) :
    left.Alike right where
  matching := by
    intro eventType cluster
    rw [List.perm_ext_iff_of_nodup (left.nodup_matching eventType cluster)
      (right.nodup_matching eventType cluster)]
    intro id
    rw [refines.mem_matching, refinesRight.mem_matching]
  subscriptionsOf := by
    intro id
    rw [List.perm_ext_iff_of_nodup (left.nodup_subscriptionsOf id).of_map
      (right.nodup_subscriptionsOf id).of_map]
    rintro ⟨eventType, filter⟩
    rw [refines.mem_subscriptionsOf, refinesRight.mem_subscriptionsOf]
  references := by
    intro id
    rw [Bool.eq_iff_iff, refines.references_iff, refinesRight.references_iff]
  countFor := by
    intro id
    rw [refines.countFor_eq, refinesRight.countFor_eq]
  size := by rw [refines.size_eq, refinesRight.size_eq]
  isEmpty := by rw [Bool.eq_iff_iff, refines.isEmpty_iff, refinesRight.isEmpty_iff]

/-- In whatever order connections take their turns, starting from whatever was there: the index ends
up the same, and every operation of every connection has returned the same. -/
theorem interleavings_agree (cap : Nat) (history : List Operation)
    (scripts : ConnectionId → List Operation) {first second : List Operation}
    (interleaves : Interleaves scripts first) (interleavesAlso : Interleaves scripts second) :
    Alike (first.foldl (apply cap) (run cap history)) (second.foldl (apply cap) (run cap history)) ∧
      ∀ id,
        (((run cap history).transcript cap first).filter fun entry => entry.1.connection = id) =
          ((run cap history).transcript cap second).filter fun entry =>
            entry.1.connection = id := by
  constructor
  · obtain ⟨map, refines⟩ : ∃ map, (run cap history).Refines map :=
      refines_empty.foldl_apply cap history
    obtain ⟨left, refinesFirst⟩ := refines.foldl_apply cap first
    obtain ⟨right, refinesSecond⟩ := refines.foldl_apply cap second
    refine refinesFirst.alike (refinesFirst.of_holding refinesSecond fun id => ?_)
    rw [holding_foldl_apply cap _ first, holding_foldl_apply cap _ second, interleaves id,
      interleavesAlso id]
  · intro id
    rw [transcript_own, transcript_own, interleaves id, interleavesAlso id]

/-- Two clients share a type, and one of them asks for too much. The other's commands come in
between or last, and in both orders the greedy one is told the same. -/
theorem interleavings_agree_shared_type :
    Alike
        ([.subscribeMany "b" ["alert", "node", "pod"] ⟨∅⟩, .subscribeMany "a" ["alert"] ⟨∅⟩,
          .subscribeMany "b" ["alert"] ⟨∅⟩, .unsubscribe "a" "alert", .unsubscribeAll "b"].foldl
            (apply 2) (run 2 [.subscribe "a" "node" ⟨∅⟩]))
        ([.subscribeMany "b" ["alert", "node", "pod"] ⟨∅⟩, .subscribeMany "b" ["alert"] ⟨∅⟩,
          .unsubscribeAll "b", .subscribeMany "a" ["alert"] ⟨∅⟩, .unsubscribe "a" "alert"].foldl
            (apply 2) (run 2 [.subscribe "a" "node" ⟨∅⟩])) ∧
      (((run 2 [.subscribe "a" "node" ⟨∅⟩]).transcript 2
          [.subscribeMany "b" ["alert", "node", "pod"] ⟨∅⟩, .subscribeMany "a" ["alert"] ⟨∅⟩,
            .subscribeMany "b" ["alert"] ⟨∅⟩, .unsubscribe "a" "alert",
            .unsubscribeAll "b"]).filter fun entry => entry.1.connection = "b") =
        [(.subscribeMany "b" ["alert", "node", "pod"] ⟨∅⟩,
            .refused (.subscriptionLimitExceeded 2)),
          (.subscribeMany "b" ["alert"] ⟨∅⟩, .added 1), (.unsubscribeAll "b", .cleared 1)] := by
  have regrouped : Interleaves
      (fun id =>
        [.subscribeMany "b" ["alert", "node", "pod"] ⟨∅⟩, .subscribeMany "a" ["alert"] ⟨∅⟩,
          .subscribeMany "b" ["alert"] ⟨∅⟩, .unsubscribe "a" "alert",
          .unsubscribeAll "b"].filter fun operation => operation.connection = id)
      [.subscribeMany "b" ["alert", "node", "pod"] ⟨∅⟩, .subscribeMany "b" ["alert"] ⟨∅⟩,
        .unsubscribeAll "b", .subscribeMany "a" ["alert"] ⟨∅⟩, .unsubscribe "a" "alert"] := by
    intro id
    by_cases isA : "a" = id
    · subst isA
      rfl
    · by_cases isB : "b" = id
      · subst isB
        rfl
      · simp [Operation.connection, isA, isB]
  obtain ⟨alike, answers⟩ :=
    interleavings_agree 2 [.subscribe "a" "node" ⟨∅⟩] _ (fun _ => rfl) regrouped
  exact ⟨alike, (answers "b").trans (by decide)⟩

end SubscriptionIndex

end EventHub
