import EventHub.Proofs.Live.Advance
import EventHub.Proofs.Live.Attendance
import EventHub.Proofs.Live.Membership
import EventHub.Proofs.Live.Replay

/-!
How a hub at work waits for closes. Time goes on from one wake to the next and stops as soon as the
closes are over, or when the last of their deadlines has come; then the rest of them end. No close
that is waited for can begin anew meanwhile.
-/

namespace EventHub.LiveHub

variable {live next : LiveHub} {id : ConnectionId} {ids : List ConnectionId} {deadline : Instant}
  {span : Nat}

/-! The clock. It stands still while tasks take their steps. -/

theorem clock_runSteps (fuel : Nat) (live : LiveHub) : (runSteps fuel live).clock = live.clock := by
  induction fuel generalizing live with
  | zero => rfl
  | succ fuel ih =>
      rw [runSteps]
      split
      · rename_i next steps
        obtain ⟨task, -, stepped⟩ := List.exists_of_findSome?_eq_some steps
        exact (ih next).trans (clock_taskStep stepped)
      · rfl

theorem clock_runReady (live : LiveHub) : live.runReady.clock = live.clock :=
  clock_runSteps live.stepBound live

theorem clock_finishCloses (live : LiveHub) (ids : List ConnectionId) :
    (live.finishCloses ids).clock = live.clock :=
  List.foldlRecOn (motive := fun (state : LiveHub) => state.clock = live.clock) _ _ rfl
    fun state same id _ => by
      cases steps : state.finishStep id with
      | none => exact same
      | some next =>
          have stepped : state.taskStep (.close id) = some next := steps
          exact (clock_taskStep stepped).trans same

theorem lt_nextWake {wake : Instant} (wakes : live.nextWake? = some wake) : live.clock < wake := by
  have later : ∀ best, live.nextWake? = some best → live.clock < best := by
    rw [nextWake?]
    refine List.foldlRecOn
      (motive := fun (best : Option Instant) => ∀ wake, best = some wake → live.clock < wake)
      _ _ nofun fun best later wake _ => ?_
    have ahead : ∀ instant, (wake.filter fun instant => live.clock < instant) = some instant →
        live.clock < instant := by
      intro instant found
      simpa using (Option.filter_eq_some_iff.1 found).2
    cases best with
    | none => exact ahead
    | some first =>
        cases next : wake.filter fun instant => live.clock < instant with
        | none => exact later
        | some second =>
            intro least isLeast
            cases isLeast
            exact Nat.lt_min.2 ⟨later first rfl, ahead second next⟩
  exact later wake wakes

/-- Time passes up to the target at the latest, and not so far only if what is waited for has
come. -/
theorem clock_advanceSteps (holds : LiveHub → Bool) (fuel : Nat) {target : Instant}
    (live : LiveHub) (ahead : live.clock ≤ target) :
    live.clock ≤ (advanceSteps holds fuel target live).clock ∧
      (advanceSteps holds fuel target live).clock ≤ target ∧
      (holds (advanceSteps holds fuel target live) = true ∨
        (advanceSteps holds fuel target live).clock = target) := by
  induction fuel generalizing live with
  | zero => exact ⟨ahead, Nat.le_refl target, Or.inr rfl⟩
  | succ fuel ih =>
      have ready := clock_runReady live
      rw [advanceSteps]
      split
      · rename_i come
        exact ⟨Nat.le_of_eq ready.symm, Nat.le_trans (Nat.le_of_eq ready) ahead, Or.inl come⟩
      · split
        · rename_i wake wakes
          have later := lt_nextWake wakes
          split
          · rename_i soon
            obtain ⟨since, until_target, ends⟩ :=
              ih { live.runReady with clock := wake } (Nat.le_of_lt soon)
            exact ⟨Nat.le_trans (Nat.le_of_lt (ready ▸ later)) since, until_target, ends⟩
          · exact ⟨ahead, Nat.le_refl target, Or.inr rfl⟩
        · exact ⟨ahead, Nat.le_refl target, Or.inr rfl⟩

theorem clock_advanceUntil (live : LiveHub) (holds : LiveHub → Bool) (span : Nat) :
    live.clock ≤ (live.advanceUntil holds span).clock ∧
      (live.advanceUntil holds span).clock ≤ live.clock + span ∧
      (holds (live.advanceUntil holds span) = true ∨
        (live.advanceUntil holds span).clock = live.clock + span) :=
  clock_advanceSteps holds (span + 1) live (Nat.le_add_right live.clock span)

/-! The closes that wait. -/

/-- The close of this connection, if one waits, is over by then at the latest. -/
def Timely (live : LiveHub) (id : ConnectionId) (deadline : Instant) : Prop :=
  ∀ closing ∈ live.closings, closing.id = id → closing.deadline ≤ deadline

/-- The close of this connection, if one waits, can end now. -/
def MayFinish (live : LiveHub) (id : ConnectionId) : Prop :=
  ∀ closing ∈ live.closings, closing.id = id → live.canFinish closing = true

theorem Timely.mayFinish (timely : live.Timely id live.clock) : live.MayFinish id := by
  intro closing waits own
  rw [canFinish, decide_eq_true (timely closing waits own), Bool.or_true]

theorem isClosing_eq_false_iff :
    live.isClosing ids = false ↔ ∀ closing ∈ live.closings, closing.id ∉ ids := by
  simp [isClosing]

/-- What has left does not come back, and its close does not begin a second time. -/
theorem Advances.departed {calls : List CloseCall} (advances : live.Advances calls next)
    (wellFormed : live.hub.WellFormed) (departed : live.hub.Departed id) :
    next.hub.WellFormed ∧ next.hub.Departed id ∧
      ∀ closing ∈ next.closings, closing.id = id → closing ∈ live.closings := by
  induction advances with
  | rests hub closings =>
      rw [hub, closings]
      exact ⟨wellFormed, departed, fun _ waits _ => waits⟩
  | operates operation fair hub closings =>
      rw [hub, closings]
      exact ⟨(Hub.effect_apply wellFormed operation).wellFormed,
        (departed.apply wellFormed operation).1, fun _ waits _ => waits⟩
  | begins live key reason =>
      rw [beginClose?]
      cases begun : live.hub.beginClose? key reason with
      | none => exact ⟨wellFormed, departed, fun _ waits _ => waits⟩
      | some hub =>
          have applied : live.hub.apply (.beginClose key reason) = hub := by
            rw [Hub.apply, begun, Option.getD_some]
          have stays := (departed.apply wellFormed (.beginClose key reason)).1
          have formed := (Hub.effect_apply wellFormed (.beginClose key reason)).wellFormed
          rw [applied] at stays formed
          refine ⟨formed, stays, fun closing waits own => ?_⟩
          rcases List.mem_append.1 waits with waits | begins
          · exact waits
          · have isKey : key = id := by
              rw [← own, List.mem_singleton.1 begins]
            have registered := (live.hub.isSome_beginClose? key reason).symm
            rw [begun, isKey] at registered
            cases registered.symm.trans departed.2
  | @ends live next key steps =>
      obtain ⟨closing, -, -, rfl⟩ := closing_of_finishStep steps
      exact ⟨(Hub.effect_apply wellFormed (.finishClose key closing.reason)).wellFormed,
        (departed.apply wellFormed (.finishClose key closing.reason)).1,
        fun _ waits _ => (List.mem_filter.1 waits).1⟩
  | trans _ _ first second =>
      obtain ⟨formed, away, earlier⟩ := first wellFormed departed
      obtain ⟨last, stays, later⟩ := second formed away
      exact ⟨last, stays, fun closing waits own => earlier closing (later closing waits own) own⟩

theorem Action.isWhole_of_isUnattended {action : Action}
    (unattended : action.isUnattended = true) : action.isWhole = true := by
  cases action with
  | hub operation => cases unattended
  | _ => rfl

theorem Drifts.departed (drifts : live.Drifts next) (staffed : live.Staffed)
    (departed : live.hub.Departed id) :
    next.hub.Departed id ∧
      ∀ closing ∈ next.closings, closing.id = id → closing ∈ live.closings := by
  obtain ⟨actions, unattended, rfl⟩ := drifts
  induction actions generalizing live with
  | nil => exact ⟨departed, fun _ waits _ => waits⟩
  | cons action rest ih =>
      obtain ⟨first, unattended⟩ := List.forall_mem_cons.1 unattended
      have advances := advances_act staffed (Action.isWhole_of_isUnattended first)
      obtain ⟨-, away, earlier⟩ := advances.departed staffed.wellFormed departed
      obtain ⟨last, later⟩ := ih (staffed.act action) away unattended
      exact ⟨last, fun closing waits own => earlier closing (later closing waits own) own⟩

/-- A close that can end does so when its turn comes; those of others do not notice. -/
theorem mayFinish_finishStep (wellFormed : live.hub.WellFormed) {key : ConnectionId}
    (mayFinish : live.MayFinish key) :
    ((live.finishStep key).getD live).hub.WellFormed ∧
      (∀ closing ∈ ((live.finishStep key).getD live).closings,
        closing ∈ live.closings ∧ closing.id ≠ key) ∧
      ∀ id, live.MayFinish id → ((live.finishStep key).getD live).MayFinish id := by
  cases first : live.closings.find? fun closing => closing.id == key with
  | none =>
      have nothing : live.finishStep key = none := by rw [finishStep, first]
      rw [nothing, Option.getD_none]
      refine ⟨wellFormed, fun closing waits => ⟨waits, ?_⟩, fun id mayFinish => mayFinish⟩
      simpa using List.find?_eq_none.1 first closing waits
  | some closing =>
      have isKey : closing.id = key := by simpa using List.find?_some first
      have waits := List.mem_of_find?_eq_some first
      have steps : live.finishStep key = some { live with
          hub := live.hub.finishClose key closing.reason
          closings := live.closings.filter fun other => other.id ≠ key } := by
        rw [finishStep, first]
        exact if_pos (mayFinish closing waits isKey)
      have effect := Hub.effect_finishClose wellFormed key closing.reason
      rw [steps, Option.getD_some]
      refine ⟨effect.wellFormed, fun other waits => ?_, fun id others other waits own => ?_⟩
      · simpa using waits
      · obtain ⟨waits, apart⟩ : other ∈ live.closings ∧ other.id ≠ key := by simpa using waits
        have stands := effect.standing other.id
        rw [Standing.onlyAt, if_neg apart] at stands
        have found : (live.hub.finishClose key closing.reason).get? other.id =
            live.hub.get? other.id := congrArg Standing.connection stands
        have ends := others other waits own
        rw [canFinish] at ends ⊢
        rwa [found]

theorem finishCloses_ends (wellFormed : live.hub.WellFormed)
    (mayFinish : ∀ id ∈ ids, live.MayFinish id) :
    ∀ closing ∈ (live.finishCloses ids).closings, closing ∈ live.closings ∧ closing.id ∉ ids := by
  induction ids generalizing live with
  | nil => exact fun closing waits => ⟨waits, List.not_mem_nil⟩
  | cons key rest ih =>
      obtain ⟨first, others⟩ := List.forall_mem_cons.1 mayFinish
      obtain ⟨formed, ended, keeps⟩ := mayFinish_finishStep wellFormed first
      intro closing waits
      obtain ⟨waits, notRest⟩ :=
        ih formed (fun id member => keeps id (others id member)) closing waits
      obtain ⟨waits, notKey⟩ := ended closing waits
      exact ⟨waits, List.not_mem_cons_of_ne_of_not_mem notKey notRest⟩

theorem le_longest {α : Type} (counts : α → Bool) (span : α → Nat) (items : List α)
    (longest : Nat) :
    longest ≤ items.foldl
        (fun longest item => if counts item then max longest (span item) else longest) longest ∧
      ∀ item ∈ items, counts item = true → span item ≤ items.foldl
        (fun longest item => if counts item then max longest (span item) else longest) longest := by
  induction items generalizing longest with
  | nil => exact ⟨Nat.le_refl longest, nofun⟩
  | cons item rest ih =>
      obtain ⟨grows, others⟩ :=
        ih (if counts item then max longest (span item) else longest)
      rw [List.foldl_cons]
      refine ⟨Nat.le_trans ?_ grows, List.forall_mem_cons.2 ⟨fun counted => ?_, others⟩⟩
      · split
        · exact Nat.le_max_left _ _
        · exact Nat.le_refl longest
      · rw [if_pos counted] at grows ⊢
        exact Nat.le_trans (Nat.le_max_right _ _) grows

theorem timely_closingTime {id : ConnectionId} (member : id ∈ ids) :
    live.Timely id (live.clock + live.closingTime ids) := by
  intro closing waits own
  have spans := (le_longest (fun closing => ids.contains closing.id)
    (fun closing => closing.deadline - live.clock) live.closings 0).2 closing waits
    (by simpa [own] using member)
  exact Nat.sub_le_iff_le_add'.1 spans

theorem closingTime_le (timely : ∀ id ∈ ids, live.Timely id (live.clock + span)) :
    live.closingTime ids ≤ span := by
  rw [closingTime]
  refine List.foldlRecOn (motive := fun (longest : Nat) => longest ≤ span) _ _ (Nat.zero_le span)
    fun longest within closing waits => ?_
  split
  · rename_i member
    have soon := timely closing.id (by simpa using member) closing waits rfl
    exact Nat.max_le.2 ⟨within, Nat.sub_le_iff_le_add'.2 soon⟩
  · exact within

theorem Drifts.staffed (drifts : live.Drifts next) (staffed : live.Staffed) : next.Staffed := by
  obtain ⟨actions, -, rfl⟩ := drifts
  exact staffed.run actions

theorem Drifts.timely (drifts : live.Drifts next) (staffed : live.Staffed)
    (departed : live.hub.Departed id) (timely : live.Timely id deadline) :
    next.Timely id deadline := fun closing waits own =>
  timely closing ((drifts.departed staffed departed).2 closing waits own) own

/-- After the wait the last of the closes can end. -/
theorem mayFinish_advanceUntil (staffed : live.Staffed)
    (departed : ∀ id ∈ ids, live.hub.Departed id) :
    ∀ id ∈ ids, (live.advanceUntil (fun live => !live.isClosing ids)
      (live.closingTime ids)).MayFinish id := by
  intro id member
  have drifts := drifts_advanceUntil live (fun live => !live.isClosing ids) (live.closingTime ids)
  have timely := drifts.timely staffed (departed id member) (timely_closingTime member)
  obtain ⟨-, -, ended | late⟩ :=
    live.clock_advanceUntil (fun live => !live.isClosing ids) (live.closingTime ids)
  · intro closing waits own
    have nobody := isClosing_eq_false_iff.1 (by simpa using ended) closing waits
    exact absurd (own ▸ member) nobody
  · rw [← late] at timely
    exact timely.mayFinish

/-- Closes that are awaited are over afterwards, and that takes no longer than they may take. Where
each of them can end at once it takes no time. -/
theorem awaitCloses_ends (staffed : live.Staffed) (departed : ∀ id ∈ ids, live.hub.Departed id)
    (timely : ∀ id ∈ ids, live.Timely id (live.clock + span)) :
    (live.awaitCloses ids).isClosing ids = false ∧
      live.clock ≤ (live.awaitCloses ids).clock ∧
      (live.awaitCloses ids).clock ≤ live.clock + span ∧
      ((∀ id ∈ ids, live.MayFinish id) → (live.awaitCloses ids).clock = live.clock) := by
  have finishes := drifts_finishCloses live ids
  have clock := clock_finishCloses live ids
  rw [awaitCloses]
  split
  · rename_i waits
    generalize isFinished : live.finishCloses ids = finished at finishes clock waits ⊢
    have staffedFinished := finishes.staffed staffed
    have departedFinished : ∀ id ∈ ids, finished.hub.Departed id := fun id member =>
      (finishes.departed staffed (departed id member)).1
    have soon : finished.closingTime ids ≤ span := closingTime_le fun id member => by
      rw [clock]
      exact finishes.timely staffed (departed id member) (timely id member)
    obtain ⟨since, until_target, -⟩ :=
      finished.clock_advanceUntil (fun live => !live.isClosing ids) (finished.closingTime ids)
    have advances := drifts_advanceUntil finished (fun live => !live.isClosing ids)
      (finished.closingTime ids)
    have ends := finishCloses_ends (advances.staffed staffedFinished).wellFormed
      (mayFinish_advanceUntil staffedFinished departedFinished)
    rw [clock_finishCloses]
    rw [clock] at since until_target
    refine ⟨isClosing_eq_false_iff.2 fun closing waits => (ends closing waits).2, since,
      Nat.le_trans until_target (Nat.add_le_add_left soon live.clock), fun mayFinish => ?_⟩
    have nobody := isClosing_eq_false_iff.2 fun closing waits =>
      (finishCloses_ends staffed.wellFormed mayFinish closing waits).2
    rw [isFinished, waits] at nobody
    cases nobody
  · rename_i ended
    refine ⟨by simpa using ended, Nat.le_of_eq clock.symm, ?_, fun _ => clock⟩
    rw [clock]
    exact Nat.le_add_right live.clock span

end EventHub.LiveHub
