import EventHub.Proofs.Hub.Offer
import EventHub.Proofs.Live.Action

/-!
Which clusters a connection hears from. A stored filter accepts only clusters that the identity
allows, with one exception: what an empty scope grants is the empty set, and as a filter the empty
set stands for every cluster.
-/

namespace EventHub

theorem ClusterScope.allows_of_narrow {scope : ClusterScope} {requested granted : NameSet}
    (narrows : scope.narrow requested = .ok granted) {cluster : String}
    (accepts : ({ clusters := granted } : ClusterFilter).accepts cluster = true)
    (inhabited : scope ≠ .only ∅) : scope.allows cluster = true := by
  cases scope with
  | all => rfl
  | only allowed =>
      simp only [ClusterFilter.accepts, ClusterFilter.isAll, Bool.or_eq_true] at accepts
      simp only [narrow] at narrows
      split at narrows
      · cases narrows
        rcases accepts with empty | contained
        · exact absurd (congrArg only (NameSet.isEmpty_iff.1 empty)) inhabited
        · exact contained
      · rename_i nonempty
        split at narrows
        · cases narrows
        · rename_i permitted
          cases narrows
          rcases accepts with empty | contained
          · exact absurd empty nonempty
          · have inScope := List.find?_eq_none.1 permitted cluster
              (NameSet.contains_iff.1 contained)
            simpa [allows] using inScope

namespace Hub

variable {hub : Hub} {event : Event} {id : ConnectionId}

theorem Sound.allows_of_delivers (sound : hub.Sound) (delivers : hub.Delivers event id)
    {connection : Connection} (found : hub.get? id = some connection)
    (inhabited : connection.identity.clusters ≠ .only ∅) :
    connection.identity.clusters.allows event.cluster = true := by
  obtain ⟨-, -, wants⟩ := (delivers_iff sound.wellFormed).1 delivers
  obtain ⟨filter, stored, accepts⟩ := (Option.any_eq_true _ _).1 wants
  obtain ⟨requested, narrows⟩ := (sound.standing id).within connection found _ filter stored
  exact ClusterScope.allows_of_narrow narrows accepts inhabited

end Hub

namespace LiveHub

/-- An identity hears nothing but its own clusters exactly when its scope names some cluster or is
unrestricted. -/
theorem confidential_iff (identity : Identity) :
    (∀ config actions id connection event,
        ((idle config).run actions).hub.find? id = some connection →
        connection.identity = identity →
        ((idle config).run actions).hub.Delivers event id →
        identity.clusters.allows event.cluster = true) ↔
      identity.clusters ≠ .only ∅ := by
  constructor
  · intro confidential empty
    obtain ⟨subject, displayName, scopes, clusters⟩ := identity
    cases empty
    -- The empty scope grants the empty set, and that filter accepts whatever is routed.
    let actions : List Action :=
      [.hub (.register "c" ⟨subject, displayName, scopes, .only ∅⟩ 1),
        .hub (.subscribe "c" ["alert"] [])]
    have sound := sound_run (sound_idle {}) actions
    have leaks := confidential {} actions "c" _ ⟨"alert", "west", .null, 0⟩ rfl rfl
      ((Hub.delivers_iff sound.wellFormed).2 ⟨rfl, rfl, rfl⟩)
    cases leaks
  · intro inhabited config actions id connection event found isIdentity delivers
    have sound := sound_run (sound_idle config) actions
    obtain ⟨-, stored⟩ := Hub.find?_eq_some_iff.1 found
    rw [← isIdentity] at inhabited ⊢
    exact sound.allows_of_delivers delivers stored inhabited

/-- An identity whose header names no cluster at all is sent an event of a cluster it is not
allowed. -/
theorem delivers_outside_empty_scope :
    ClusterScope.ofJson? (.object [(some "only", .array [])]) = some (.only ∅) ∧
      ∃ connection,
        ((idle {}).run [.hub (.register "c0" { subject := "nobody", clusters := .only ∅ } 1),
          .hub (.subscribe "c0" ["alert"] [])]).hub.find? "c0" = some connection ∧
        connection.identity.clusters.allows "c1" = false ∧
        ((idle {}).run [.hub (.register "c0" { subject := "nobody", clusters := .only ∅ } 1),
          .hub (.subscribe "c0" ["alert"] [])]).hub.Delivers
            ⟨"alert", "c1", .null, 1700000000000⟩ "c0" := by
  have sound := sound_run (sound_idle {})
    [.hub (.register "c0" { subject := "nobody", clusters := .only ∅ } 1),
      .hub (.subscribe "c0" ["alert"] [])]
  exact ⟨rfl, _, rfl, rfl, (Hub.delivers_iff sound.wellFormed).2 ⟨rfl, rfl, rfl⟩⟩

end LiveHub

end EventHub
