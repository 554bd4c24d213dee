import EventHub.Proofs.Hub.Dwindling

/-!
What a routed event does to one connection: where it is registered, open and wanted, it goes to
the end of the buffer, and otherwise nothing happens.
-/

namespace EventHub

namespace Buffer

variable (buffer : Buffer) (payload : Payload)

theorem queue_makeRoom_suffix : buffer.makeRoom.queue <:+ buffer.queue := by
  rw [makeRoom]
  split
  · exact List.tail_suffix buffer.queue
  · exact List.suffix_refl buffer.queue

theorem queue_enqueue : (buffer.enqueue payload).1.queue = buffer.makeRoom.queue ++ [payload] := by
  simp only [enqueue, checkHigh]
  split <;> rfl

theorem dropped_enqueue : (buffer.enqueue payload).1.dropped = buffer.makeRoom.dropped := by
  simp only [enqueue, checkHigh]
  split <;> rfl

theorem enqueue_ne : (buffer.enqueue payload).1 ≠ buffer := by
  intro same
  have queue := queue_enqueue buffer payload
  have dropped := dropped_enqueue buffer payload
  rw [same] at queue dropped
  -- A full buffer drops a payload, any other gets longer.
  rw [makeRoom] at queue dropped
  split at queue
  · rename_i full
    rw [if_pos full] at dropped
    exact Nat.succ_ne_self _ dropped.symm
  · have length := congrArg List.length queue
    simp at length

end Buffer

namespace Standing

theorem offer_of_taken {standing : Standing} {event : Event} {connection : Connection}
    (found : standing.connection = some connection) (registered : standing.registered = true)
    (opened : connection.isOpen = true) (wants : standing.holding.wants event = true) :
    (standing.offer event).connection =
      some { connection with buffer := (connection.buffer.enqueue event.toPayload).1 } := by
  rw [offer, registered, wants, amend]
  simp [found, Connection.take, opened]

theorem offer_of_ignored {standing : Standing} {event : Event}
    (ignored : ¬(standing.registered = true ∧ standing.isOpen = true ∧
      standing.holding.wants event = true)) :
    standing.offer event = standing := by
  rw [offer]
  split
  · rename_i offered
    obtain ⟨registered, wants⟩ := (Bool.and_eq_true _ _).mp offered
    have same : standing.connection.map (Connection.take event.toPayload) =
        standing.connection := by
      cases found : standing.connection with
      | none => rfl
      | some connection =>
          have closing : connection.isOpen = false := by
            rw [Bool.eq_false_iff]
            intro opened
            exact ignored ⟨registered, by simpa [isOpen, found] using opened, wants⟩
          rw [Option.map_some, Connection.take_of_not_isOpen closing]
    rw [amend, same]
  · rfl

theorem controls_offer (standing : Standing) (event : Event) :
    (standing.offer event).controls = standing.controls := by
  rw [offer]
  split
  · rw [controls, controls, amend]
    cases standing.connection with
    | none => rfl
    | some connection =>
        rw [Option.map_some, Option.elim_some, Option.elim_some, Connection.take]
        split <;> rfl
  · rfl

end Standing

namespace Hub

/-- Routing the event puts something into the connection's buffer. -/
def Delivers (hub : Hub) (event : Event) (id : ConnectionId) : Prop :=
  ((hub.route event).1.get? id).map Connection.buffer ≠ (hub.get? id).map Connection.buffer

theorem delivers_iff {hub : Hub} (wellFormed : hub.WellFormed) {event : Event}
    {id : ConnectionId} :
    hub.Delivers event id ↔ (hub.standing id).registered = true ∧
      (hub.standing id).isOpen = true ∧ (hub.standing id).holding.wants event = true := by
  have routed := congrArg Standing.connection ((effect_route wellFormed event).standing id)
  have get?_route : (hub.route event).1.get? id =
      ((hub.standing id).offer event).connection := routed
  rw [Delivers, get?_route]
  constructor
  · intro changed
    refine Classical.byContradiction fun ignored => ?_
    rw [Standing.offer_of_ignored ignored] at changed
    exact changed rfl
  · rintro ⟨registered, opened, wants⟩
    obtain ⟨connection, found, accepting⟩ := (Option.any_eq_true _ _).1 opened
    have stored : hub.get? id = some connection := found
    rw [Standing.offer_of_taken found registered accepting wants, stored]
    intro same
    exact Buffer.enqueue_ne connection.buffer event.toPayload (Option.some.inj same)

end Hub

end EventHub
