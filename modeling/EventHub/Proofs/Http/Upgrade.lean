import EventHub.Http.Upgrade

/-!
What of a request counts in a handshake: the headers that ask for a WebSocket, and which headers
can be changed without a difference.
-/

namespace EventHub.Http.Request

/-- All that a client sends to ask for a WebSocket, over a transport that can become one. -/
structure AsksForSocket (request : Request) : Prop where
  method : request.method = "GET"
  connection : request.headerMentions "connection" "upgrade" = true
  upgrade : request.headerIs "upgrade" "websocket" = true
  key : ∃ key, request.rawHeader? "sec-websocket-key" = some key
  version : request.headerIs "sec-websocket-version" "13" = true
  upgradable : request.upgradable = true

theorem upgradeProblem?_eq_none_iff {request : Request} :
    request.upgradeProblem? = none ↔ request.AsksForSocket := by
  have passes {problem : UpgradeProblem} {later : Option UpgradeProblem} {fault : Prop}
      [Decidable fault] : (if fault then some problem else later) = none ↔
        ¬fault ∧ later = none := by
    split
    · rename_i held
      exact ⟨nofun, fun passed => absurd held passed.1⟩
    · rename_i passed
      exact ⟨fun rest => ⟨passed, rest⟩, And.right⟩
  simp only [upgradeProblem?, passes, Classical.not_not, Bool.not_eq_true', Bool.not_eq_false,
    Option.isNone_iff_eq_none, ← Option.isSome_iff_ne_none, Option.isSome_iff_exists, and_true]
  constructor
  · rintro ⟨method, connection, upgrade, key, version, upgradable⟩
    exact ⟨method, connection, upgrade, key, version, upgradable⟩
  · rintro ⟨method, connection, upgrade, key, version, upgradable⟩
    exact ⟨method, connection, upgrade, key, version, upgradable⟩

/-- The same request apart from the headers of one name. -/
structure SameBut (name : String) (left right : Request) : Prop where
  method : left.method = right.method
  path : left.path = right.path
  query : left.query = right.query
  headers : left.headers.filter (fun header => Text.lowerString header.1 != name) =
    right.headers.filter fun header => Text.lowerString header.1 != name
  body : left.body = right.body
  upgradable : left.upgradable = right.upgradable

namespace SameBut

variable {name : String} {left right : Request}

theorem rawHeaders (same : SameBut name left right) (other : String) (apart : other ≠ name) :
    left.rawHeaders other = right.rawHeaders other := by
  have kept (headers : List (String × String)) :
      headers.filter (fun header => Text.lowerString header.1 == other) =
        (headers.filter fun header => Text.lowerString header.1 != name).filter fun header =>
          Text.lowerString header.1 == other := by
    rw [List.filter_filter]
    refine List.filter_congr fun header _ => ?_
    by_cases named : Text.lowerString header.1 = other
    · simp [named, apart]
    · simp [named]
  rw [Request.rawHeaders, Request.rawHeaders, kept left.headers, kept right.headers, same.headers]

theorem rawHeader? (same : SameBut name left right) (other : String) (apart : other ≠ name) :
    left.rawHeader? other = right.rawHeader? other := by
  rw [Request.rawHeader?, Request.rawHeader?, same.rawHeaders other apart]

theorem header? (same : SameBut name left right) (other : String) (apart : other ≠ name) :
    left.header? other = right.header? other := by
  rw [Request.header?, Request.header?, same.rawHeader? other apart]

theorem upgradeProblem? (same : SameBut name left right)
    (apart : name ∉ ["connection", "upgrade", "sec-websocket-key", "sec-websocket-version"]) :
    left.upgradeProblem? = right.upgradeProblem? := by
  simp only [List.mem_cons, List.not_mem_nil, or_false, not_or] at apart
  obtain ⟨connection, upgrade, key, version⟩ := apart
  have mentions : left.headerMentions "connection" "upgrade" =
      right.headerMentions "connection" "upgrade" := by
    rw [headerMentions, headerMentions, same.rawHeader? _ (Ne.symm connection)]
  have headerIs {other value : String} (apart : other ≠ name) :
      left.headerIs other value = right.headerIs other value := by
    rw [Request.headerIs, Request.headerIs, same.rawHeader? other apart]
  rw [Request.upgradeProblem?, Request.upgradeProblem?, same.method, same.upgradable, mentions,
    same.rawHeader? _ (Ne.symm key), headerIs (Ne.symm upgrade), headerIs (Ne.symm version)]

end SameBut

end EventHub.Http.Request
