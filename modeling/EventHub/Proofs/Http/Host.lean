import EventHub.Http.Message

/-!
The host of a URI is text that a header carries as it is: an authority has visible characters
only.
-/

namespace EventHub.Http.Uri

theorem Authority.isPlain_of_step? {seen next : Authority} {char : Char}
    (stepped : seen.step? char = some next) : Request.isPlain char = true := by
  unfold step? at stepped
  split at stepped
  case h_6 =>
    split at stepped
    case isTrue valid =>
      simp only [isAuthorityChar, Bool.and_eq_true, decide_eq_true_eq] at valid
      have blank : ' ' ≤ char := Char.le_trans (by decide) valid.1.1
      simp [Request.isPlain, blank, valid.1.2]
    case isFalse => cases stepped
  all_goals rfl

theorem Authority.isPlain_of_foldlM {seen last : Authority} {text : List Char}
    (walked : text.foldlM step? seen = some last) : ∀ char ∈ text, Request.isPlain char = true := by
  induction text generalizing seen with
  | nil => simp
  | cons char rest ih =>
      rw [List.foldlM_cons, Option.bind_eq_bind, Option.bind_eq_some_iff] at walked
      obtain ⟨next, stepped, walked⟩ := walked
      exact List.forall_mem_cons.2 ⟨isPlain_of_step? stepped, ih walked⟩

theorem isPlain_of_isAuthority {text : List Char} (valid : isAuthority text = true) :
    ∀ char ∈ text, Request.isPlain char = true := by
  simp only [isAuthority, Bool.and_eq_true, Option.any_eq_true] at valid
  obtain ⟨⟨last, walked, _⟩, _⟩ := valid
  exact Authority.isPlain_of_foldlM walked

theorem isPlain_of_authority {text authority : String} {uri : Uri}
    (parsed : parse? text = some uri) (named : uri.authority = some authority) :
    ∀ char ∈ authority.toList, Request.isPlain char = true := by
  unfold parse? at parsed
  split at parsed
  case isTrue => cases parsed
  case isFalse =>
    split at parsed
    case h_1 =>
      cases parsed
      cases named
    case h_2 =>
      obtain ⟨parts, _, rfl⟩ := Option.map_eq_some_iff.1 parsed
      cases named
    case h_3 =>
      simp only [ofAuthority?, Option.bind_eq_bind, Option.bind_eq_some_iff] at parsed
      obtain ⟨⟨scheme, rest⟩, _, parsed⟩ := parsed
      split at parsed
      case isTrue => cases parsed
      case isFalse valid =>
        obtain ⟨parts, _, built⟩ := Option.bind_eq_some_iff.1 parsed
        cases built
        cases named
        simp only [Bool.or_eq_true, not_or, Bool.not_eq_true, Bool.not_eq_false'] at valid
        rw [String.toList_ofList]
        exact isPlain_of_isAuthority valid.1.2

theorem isPlain_of_host? {text host : String} {uri : Uri} (parsed : parse? text = some uri)
    (atHost : uri.host? = some host) : ∀ char ∈ host.toList, Request.isPlain char = true := by
  obtain ⟨authority, named, atHost⟩ := Option.bind_eq_some_iff.1 atHost
  have plain := isPlain_of_authority parsed named
  cases cut : Text.splitFirst '@' authority.toList with
  | none =>
      simp only [cut, Option.ite_none_left_eq_some, Option.some.injEq] at atHost
      rwa [← atHost.2, String.toList_ofList]
  | some parts =>
      obtain ⟨user, behind⟩ := parts
      simp only [cut, Option.ite_none_left_eq_some, Option.some.injEq] at atHost
      rw [← atHost.2, String.toList_ofList]
      intro char member
      rw [(Text.splitFirst_eq_some.1 cut).1] at plain
      exact plain char (List.mem_append_right user (List.mem_cons_of_mem '@' member))

end EventHub.Http.Uri
