import EventHub.Proofs.Hub.Keeping

/-!
How a connection parts with the hub. Each call that asks it to close or takes it out of the registry
is one step with one answer, and these answers tell how far the connection has come. The hub agrees
with the log of the calls: the reason on record is that of the first request, and it is the one the
end of the connection is reported with.
-/

namespace EventHub

/-- A call that has a part in closing a connection. It answers whether the request started the
close, or whether the connection was in the registry. -/
inductive CloseCall where
  | drain (id : ConnectionId) (reason : CloseReason) (started : Bool)
  | close (id : ConnectionId) (reason : CloseReason) (removed : Bool)
  deriving DecidableEq

namespace CloseCall

def id : CloseCall → ConnectionId
  | drain id _ _ | close id _ _ => id

def drain? : CloseCall → Option (CloseReason × Bool)
  | drain _ reason started => some (reason, started)
  | close _ _ _ => none

def removes : CloseCall → Bool
  | close _ _ removed => removed
  | drain _ _ _ => false

/-- The calls on one connection. -/
def about (id : ConnectionId) (calls : List CloseCall) : List CloseCall :=
  calls.filter fun call => call.id = id

variable {id key : ConnectionId} {calls : List CloseCall}

theorem about_append (id : ConnectionId) (earlier later : List CloseCall) :
    about id (earlier ++ later) = about id earlier ++ about id later :=
  List.filter_append earlier later

theorem about_of_own (own : ∀ call ∈ calls, call.id = id) : about id calls = calls :=
  List.filter_eq_self.2 fun call member => decide_eq_true (own call member)

theorem about_of_other (own : ∀ call ∈ calls, call.id = key) (different : key ≠ id) :
    about id calls = [] := by
  exact List.filter_eq_nil_iff.2 fun call member => by simp [own call member, different]

end CloseCall

/-- How far a connection is on its way out. -/
inductive Parting where
  | staying
  | asked (reason : CloseReason)
  | left (reason : CloseReason)

namespace Parting

def reason? : Parting → Option CloseReason
  | staying => none
  | asked reason | left reason => some reason

def removals : Parting → Nat
  | staying | asked _ => 0
  | left _ => 1

theorem removals_le (parting : Parting) : parting.removals ≤ 1 := by
  cases parting with
  | staying | asked reason => exact Nat.zero_le 1
  | left reason => exact Nat.le_refl 1

/-- A connection that is as far as the first gives these answers, and is then as far as the
second. -/
inductive Answers : Parting → List CloseCall → Parting → Prop where
  | done (parting : Parting) : Answers parting [] parting
  | unfound {id : ConnectionId} {reason : CloseReason} {rest : List CloseCall} {last : Parting}
      (later : Answers staying rest last) :
      Answers staying (.close id reason false :: rest) last
  | starts {id : ConnectionId} {reason : CloseReason} {rest : List CloseCall} {last : Parting}
      (later : Answers (asked reason) rest last) :
      Answers staying (.drain id reason true :: rest) last
  | repeats {id : ConnectionId} {given reason : CloseReason} {rest : List CloseCall}
      {last : Parting} (later : Answers (asked given) rest last) :
      Answers (asked given) (.drain id reason false :: rest) last
  | leaves {id : ConnectionId} {given reason : CloseReason} {rest : List CloseCall}
      {last : Parting} (later : Answers (left given) rest last) :
      Answers (asked given) (.close id reason true :: rest) last
  | drainsLate {id : ConnectionId} {given reason : CloseReason} {rest : List CloseCall}
      {last : Parting} (later : Answers (left given) rest last) :
      Answers (left given) (.drain id reason false :: rest) last
  | closesLate {id : ConnectionId} {given reason : CloseReason} {rest : List CloseCall}
      {last : Parting} (later : Answers (left given) rest last) :
      Answers (left given) (.close id reason false :: rest) last

namespace Answers

variable {first middle last : Parting} {calls earlier later : List CloseCall}

theorem trans (before : Answers first earlier middle) (after : Answers middle later last) :
    Answers first (earlier ++ later) last := by
  induction before with
  | done parting => exact after
  | unfound _ ih => exact .unfound (ih after)
  | starts _ ih => exact .starts (ih after)
  | repeats _ ih => exact .repeats (ih after)
  | leaves _ ih => exact .leaves (ih after)
  | drainsLate _ ih => exact .drainsLate (ih after)
  | closesLate _ ih => exact .closesLate (ih after)

/-- How far a connection is, the answers alone decide. -/
theorem rest (before : Answers first earlier middle)
    (whole : Answers first (earlier ++ later) last) : Answers middle later last := by
  induction before with
  | done parting => exact whole
  | unfound _ ih | starts _ ih | repeats _ ih | leaves _ ih | drainsLate _ ih
  | closesLate _ ih =>
      cases whole with
      | _ whole => exact ih whole

theorem reason?_eq (answers : Answers first calls last) {reason : CloseReason}
    (given : first.reason? = some reason) : last.reason? = some reason := by
  induction answers with
  | done parting => exact given
  | unfound _ ih => exact ih given
  | starts _ ih => cases given
  | repeats _ ih => exact ih given
  | leaves _ ih => exact ih given
  | drainsLate _ ih => exact ih given
  | closesLate _ ih => exact ih given

theorem removals_eq (answers : Answers first calls last) :
    first.removals + calls.countP CloseCall.removes = last.removals := by
  induction answers with
  | done parting => rfl
  | unfound _ ih => exact ih
  | starts _ ih => exact ih
  | repeats _ ih => exact ih
  | leaves _ ih =>
      rw [List.countP_cons_of_pos rfl, ← ih, removals, removals]
      omega
  | drainsLate _ ih => exact ih
  | closesLate _ ih => exact ih

/-- Once a reason was given, no other request starts anything. -/
theorem drains_of_given (answers : Answers first calls last) (given : first.reason? ≠ none) :
    ∀ drain ∈ calls.filterMap CloseCall.drain?, drain.2 = false := by
  induction answers with
  | done parting => exact nofun
  | unfound _ ih => exact absurd rfl given
  | starts _ ih => exact absurd rfl given
  | repeats _ ih => exact List.forall_mem_cons.2 ⟨rfl, ih given⟩
  | leaves _ ih => exact ih nofun
  | drainsLate _ ih => exact List.forall_mem_cons.2 ⟨rfl, ih given⟩
  | closesLate _ ih => exact ih given

/-- The first request gives the reason, and it alone starts the close. -/
theorem drains (answers : Answers first calls last) (undecided : first.reason? = none)
    {reason : CloseReason} (given : last.reason? = some reason) :
    ∃ later, calls.filterMap CloseCall.drain? = (reason, true) :: later ∧
      ∀ drain ∈ later, drain.2 = false := by
  induction answers with
  | done parting => cases undecided.symm.trans given
  | unfound _ ih => exact ih undecided given
  | starts later ih =>
      cases (later.reason?_eq rfl).symm.trans given
      exact ⟨_, rfl, later.drains_of_given nofun⟩
  | repeats _ ih => cases undecided
  | leaves _ ih => cases undecided
  | drainsLate _ ih => cases undecided
  | closesLate _ ih => cases undecided

end Answers

end Parting

namespace Connection

/-- The two are as far on their way out. -/
structure SameEnd (before after : Connection) : Prop where
  id : after.id = before.id
  isOpen : after.isOpen = before.isOpen
  closeReason : after.closeReason = before.closeReason

theorem SameEnd.refl (connection : Connection) : SameEnd connection connection :=
  ⟨rfl, rfl, rfl⟩

/-- A reason is on record exactly when a close was asked for. -/
structure Recorded (connection : Connection) : Prop where
  asked : connection.cancelled = !connection.isOpen
  given : connection.closeReason.isSome = connection.cancelled

theorem sameEnd_take (payload : Payload) (connection : Connection) :
    connection.SameEnd (connection.take payload) := by
  rw [take]
  split
  · exact ⟨rfl, rfl, rfl⟩
  · exact .refl connection

theorem sameEnd_attend (config : HeartbeatConfig) (now : Instant) (stamp : UInt64)
    (connection : Connection) : connection.SameEnd (connection.attend config now stamp).1 := by
  obtain ⟨heartbeat, control, attended, -⟩ := connection.attend_eq config now stamp
  rw [attended]
  exact ⟨rfl, rfl, rfl⟩

theorem beginDraining_of_isOpen {connection : Connection} (opened : connection.isOpen = true)
    (unasked : connection.closeReason = none) (reason : CloseReason) :
    (connection.beginDraining reason).2 = true ∧
      (connection.beginDraining reason).1.closeReason = some reason := by
  rw [beginDraining, if_pos opened, unasked]
  exact ⟨rfl, rfl⟩

theorem beginDraining_of_not_isOpen {connection : Connection} (closing : connection.isOpen = false)
    (reason : CloseReason) :
    (connection.beginDraining reason).2 = false ∧
      (connection.beginDraining reason).1.closeReason = connection.closeReason := by
  rw [beginDraining, if_neg (by simp [closing])]
  exact ⟨rfl, rfl⟩

theorem Recorded.isSome_beginDraining {connection : Connection} (recorded : connection.Recorded)
    (reason : CloseReason) :
    (connection.beginDraining reason).1.closeReason.isSome = true := by
  rw [beginDraining]
  split
  · rfl
  · rename_i closing
    rw [recorded.given, recorded.asked, Bool.eq_false_iff.2 closing]
    rfl

end Connection

theorem Upkeep.sameEnd_apply (upkeep : Upkeep) (connection : Connection) :
    connection.SameEnd (upkeep.apply connection) := by
  obtain ⟨heartbeat, control, attached, finished, applied⟩ := upkeep.apply_eq connection
  rw [applied]
  exact ⟨rfl, rfl, rfl⟩

namespace Standing

def closeReason (standing : Standing) : Option CloseReason :=
  standing.connection.bind Connection.closeReason

/-- How far on its way out a connection with this standing is. -/
inductive Parts (standing : Standing) : Parting → Prop where
  | unknown (absent : standing.connection = .none) (unregistered : standing.registered = false) :
      Parts standing .staying
  | stays {connection : Connection} (found : standing.connection = some connection)
      (opened : connection.isOpen = true) (unasked : connection.closeReason = .none)
      (registered : standing.registered = true) : Parts standing .staying
  | asked {connection : Connection} {reason : CloseReason}
      (found : standing.connection = some connection) (closing : connection.isOpen = false)
      (given : connection.closeReason = some reason) (registered : standing.registered = true) :
      Parts standing (.asked reason)
  | left {connection : Connection} {reason : CloseReason}
      (found : standing.connection = some connection) (closing : connection.isOpen = false)
      (given : connection.closeReason = some reason) (unregistered : standing.registered = false) :
      Parts standing (.left reason)

namespace Parts

variable {standing next : Standing} {parting : Parting} {connection : Connection}

theorem closeReason (parts : standing.Parts parting) : standing.closeReason = parting.reason? := by
  cases parts with
  | unknown absent unregistered =>
      rw [Standing.closeReason, absent]
      rfl
  | stays found opened given _ | asked found closing given _ | left found closing given _ =>
      rw [Standing.closeReason, found]
      exact given

theorem of_unregistered (parts : standing.Parts parting)
    (unregistered : standing.registered = false) (found : standing.connection = some connection) :
    ∃ reason, parting = .left reason := by
  cases parts with
  | unknown absent _ => cases absent.symm.trans found
  | stays _ _ _ registered | asked _ _ _ registered =>
      cases registered.symm.trans unregistered
  | left found closing given _ => exact ⟨_, rfl⟩

theorem isSome_closeReason (parts : standing.Parts parting)
    (found : standing.connection = some connection) :
    connection.closeReason.isSome = !connection.isOpen := by
  cases parts with
  | unknown absent _ => cases absent.symm.trans found
  | stays present opened unasked _ =>
      cases present.symm.trans found
      rw [opened, unasked]
      rfl
  | asked present closing given _ | left present closing given _ =>
      cases present.symm.trans found
      rw [closing, given]
      rfl

theorem congr (parts : standing.Parts parting) (connection : next.connection = standing.connection)
    (registered : next.registered = standing.registered) : next.Parts parting := by
  cases parts with
  | unknown absent unregistered =>
      exact .unknown (connection.trans absent) (registered.trans unregistered)
  | stays found opened unasked isRegistered =>
      exact .stays (connection.trans found) opened unasked (registered.trans isRegistered)
  | asked found closing given isRegistered =>
      exact .asked (connection.trans found) closing given (registered.trans isRegistered)
  | left found closing given unregistered =>
      exact .left (connection.trans found) closing given (registered.trans unregistered)

theorem amend (parts : standing.Parts parting) {change : Connection → Connection}
    (same : ∀ connection, standing.connection = some connection →
      connection.SameEnd (change connection)) : (standing.amend change).Parts parting := by
  have amended {connection : Connection} (found : standing.connection = some connection) :
      (standing.amend change).connection = some (change connection) := by
    rw [Standing.amend, found, Option.map_some]
  cases parts with
  | unknown absent unregistered =>
      exact .unknown (by rw [Standing.amend, absent, Option.map_none]) unregistered
  | stays found opened unasked registered =>
      have ends := same _ found
      exact .stays (amended found) (ends.isOpen.trans opened) (ends.closeReason.trans unasked)
        registered
  | asked found closing given registered =>
      have ends := same _ found
      exact .asked (amended found) (ends.isOpen.trans closing) (ends.closeReason.trans given)
        registered
  | left found closing given unregistered =>
      have ends := same _ found
      exact .left (amended found) (ends.isOpen.trans closing) (ends.closeReason.trans given)
        unregistered

theorem enroll (parts : standing.Parts parting) (fresh : standing.connection = .none)
    (config : HubConfig) (id : ConnectionId) (identity : Identity) (version : UInt32) :
    (standing.enroll (.create config id identity version)).Parts parting := by
  cases parts with
  | unknown absent unregistered => exact .stays rfl rfl rfl rfl
  | stays found _ _ _ | asked found _ _ _ | left found _ _ _ => cases fresh.symm.trans found

theorem beginDraining (parts : standing.Parts parting)
    (found : standing.connection = some connection) (id : ConnectionId) (reason : CloseReason) :
    ∃ later, parting.Answers [.drain id reason (connection.beginDraining reason).2] later ∧
      (standing.beginDraining reason).Parts later := by
  have drained : (standing.beginDraining reason).connection =
      some (connection.beginDraining reason).1 := by
    rw [Standing.beginDraining, Standing.amend, found, Option.map_some]
  have closed := connection.isOpen_beginDraining reason
  cases parts with
  | unknown absent _ => cases absent.symm.trans found
  | stays present opened unasked registered =>
      cases present.symm.trans found
      obtain ⟨started, given⟩ := Connection.beginDraining_of_isOpen opened unasked reason
      rw [started]
      exact ⟨.asked reason, .starts (.done _), .asked drained closed given registered⟩
  | asked present closing given registered =>
      cases present.symm.trans found
      obtain ⟨late, kept⟩ := Connection.beginDraining_of_not_isOpen closing reason
      rw [late]
      exact ⟨_, .repeats (.done _), .asked drained closed (kept.trans given) registered⟩
  | left present closing given unregistered =>
      cases present.symm.trans found
      obtain ⟨late, kept⟩ := Connection.beginDraining_of_not_isOpen closing reason
      rw [late]
      exact ⟨_, .drainsLate (.done _), .left drained closed (kept.trans given) unregistered⟩

theorem leave (parts : standing.Parts parting) (found : standing.connection = some connection)
    (registered : standing.registered = true) (id : ConnectionId) (reason : CloseReason) :
    ∃ later, parting.Answers
        [.drain id reason (connection.beginDraining reason).2, .close id reason true] later ∧
      (standing.leave reason).Parts later := by
  obtain ⟨middle, answers, drained⟩ := parts.beginDraining found id reason
  have closed := connection.isOpen_beginDraining reason
  rw [Standing.leave, if_pos registered]
  cases drained with
  | unknown absent _ =>
      rw [Standing.beginDraining, Standing.amend, found] at absent
      cases absent
  | stays present opened _ _ =>
      rw [Standing.beginDraining, Standing.amend, found] at present
      cases present
      cases closed.symm.trans opened
  | asked present closing given _ =>
      exact ⟨_, answers.trans (.leaves (.done _)), .left present closing given rfl⟩
  | left _ _ _ unregistered =>
      rw [Standing.beginDraining, Standing.amend, registered] at unregistered
      cases unregistered

theorem refuse (parts : standing.Parts parting) (unregistered : standing.registered = false)
    (id : ConnectionId) (reason : CloseReason) :
    parting.Answers [.close id reason false] parting := by
  cases parts with
  | unknown _ _ => exact .unfound (.done _)
  | stays _ _ _ registered | asked _ _ _ registered =>
      cases registered.symm.trans unregistered
  | left _ _ _ _ => exact .closesLate (.done _)

theorem markClosed {reason : CloseReason} (parts : standing.Parts (.left reason)) :
    (standing.amend Connection.markClosed).Parts (.left reason) := by
  cases parts with
  | @left connection _ found closing given unregistered =>
      have marked : (standing.amend Connection.markClosed).connection =
          some connection.markClosed := by rw [Standing.amend, found, Option.map_some]
      exact .left marked rfl given unregistered

end Parts

end Standing

end EventHub
