import EventHub.Proofs.Json.RoundTrip

/-!
The first member of a written record. Whatever comes after it in the text, and whether or not that
is any JSON, a value that is read starts with this member.
-/

namespace EventHub.Json

namespace Reading

/-- The outermost container is an object that starts with this member. -/
def Rooted (first : Option String × Json) : List Frame → Prop
  | [] | [.items _] => False
  | [.members done] | [.member done _] => done.getLast? = some first
  | _ :: frame :: rest => Rooted first (frame :: rest)

/-- The object that starts with this member is still being read, and not at its beginning. -/
structure Leads (first : Option String × Json) (state : Reading) : Prop where
  rooted : Rooted first state.stack
  begun : state.expects = .firstKey → ∃ rest, state.stack = .members [] :: rest

end Reading

/-- If a value is finished, it is the object that starts with this member. -/
def Progress.Leads (first : Option String × Json) : Progress → Prop
  | .reading state => Reading.Leads first state
  | .finished value => ∃ others, value = .object (first :: others)

namespace Reading

variable {first : Option String × Json} {state : Reading} {stack : List Frame}
  {progress : Progress} {value : Json} {token : Token}

theorem Rooted.push (rooted : Rooted first stack) (frame : Frame) :
    Rooted first (frame :: stack) := by
  cases stack with
  | nil => cases rooted
  | cons top rest => cases frame <;> exact rooted

/-- What holds of the outermost container does not depend on the innermost, if they differ. -/
theorem Rooted.pop {frame top : Frame} {rest : List Frame}
    (rooted : Rooted first (frame :: top :: rest)) : Rooted first (top :: rest) := by
  cases frame <;> exact rooted

theorem Rooted.add {done : List (Option String × Json)} {key : Option String}
    (rooted : Rooted first (.member done key :: stack)) (member : Option String × Json) :
    Rooted first (.members (member :: done) :: stack) := by
  cases stack with
  | nil =>
      have last : done.getLast? = some first := rooted
      rw [Rooted, List.getLast?_cons, last]
      rfl
  | cons top rest => exact rooted.pop.push _

theorem Rooted.expect {done : List (Option String × Json)} (key : Option String)
    (rooted : Rooted first (.members done :: stack)) :
    Rooted first (.member done key :: stack) := by
  cases stack with
  | nil => exact rooted
  | cons top rest => exact rooted.pop.push _

theorem Rooted.leads {expects : Expectation} (rooted : Rooted first stack)
    (begun : expects ≠ .firstKey) : Leads first ⟨expects, stack⟩ :=
  ⟨rooted, fun same => absurd same begun⟩

theorem leads_complete (rooted : Rooted first stack)
    (completes : complete stack value = some progress) : progress.Leads first := by
  cases stack with
  | nil => cases rooted
  | cons frame rest =>
      cases frame with
      | items done =>
          cases completes
          cases rest with
          | nil => cases rooted
          | cons top rest => exact (rooted.pop.push _).leads nofun
      | members done => cases completes
      | member done key =>
          cases completes
          exact (rooted.add _).leads nofun

theorem leads_beginValue (rooted : Rooted first stack)
    (begins : beginValue stack token = some progress) : progress.Leads first := by
  cases token with
  | openArray =>
      cases begins
      exact (rooted.push _).leads nofun
  | openObject =>
      cases begins
      exact ⟨rooted.push _, fun _ => ⟨stack, rfl⟩⟩
  | null => exact leads_complete rooted begins
  | bool value => exact leads_complete rooted begins
  | number literal => exact leads_complete rooted begins
  | text value => exact leads_complete rooted begins
  | closeArray => cases begins
  | closeObject => cases begins
  | comma => cases begins
  | colon => cases begins

theorem leads_closeArray {done : List Json} (rooted : Rooted first (.items done :: stack))
    (closes : complete stack value = some progress) : progress.Leads first := by
  cases stack with
  | nil => cases rooted
  | cons top rest => exact leads_complete rooted.pop closes

theorem leads_closeObject {done : List (Option String × Json)}
    (rooted : Rooted first (.members done :: stack))
    (closes : complete stack (.object done.reverse) = some progress) : progress.Leads first := by
  cases stack with
  | nil =>
      cases closes
      obtain ⟨others, rfl⟩ := List.getLast?_eq_some_iff.1 rooted
      exact ⟨others.reverse, by rw [List.reverse_append]; rfl⟩
  | cons top rest => exact leads_complete rooted.pop closes

theorem leads_step (leads : Leads first state) (steps : state.step token = some progress) :
    progress.Leads first := by
  obtain ⟨expects, stack⟩ := state
  obtain ⟨rooted, begun⟩ := leads
  unfold step at steps
  cases expects with
  | value => exact leads_beginValue rooted steps
  | firstItem =>
      dsimp only at steps
      split at steps
      · exact leads_closeArray rooted steps
      · exact leads_beginValue rooted steps
  | firstKey =>
      obtain ⟨rest, rfl⟩ := begun rfl
      dsimp only at steps
      split at steps
      · rename_i same
        cases same
        exact leads_closeObject rooted steps
      · cases steps
        exact rooted.leads nofun
      · cases steps
  | key =>
      dsimp only at steps
      split at steps
      · cases steps
        exact rooted.leads nofun
      · cases steps
  | colon key =>
      dsimp only at steps
      split at steps
      · cases steps
        exact (rooted.expect key).leads nofun
      · cases steps
  | separator =>
      dsimp only at steps
      split at steps
      · cases steps
        exact rooted.leads nofun
      · exact leads_closeArray rooted steps
      · cases steps
        exact rooted.leads nofun
      · exact leads_closeObject rooted steps
      · cases steps

theorem leads_run {fuel : Nat} {input rest : List Char} (leads : Leads first state)
    (ran : run fuel state input = some (value, rest)) :
    ∃ others, value = .object (first :: others) := by
  induction fuel generalizing state input with
  | zero => cases ran
  | succ fuel ih =>
      rw [run] at ran
      split at ran
      · cases ran
      · rename_i token after _
        split at ran
        · cases ran
        · rename_i read steps
          cases ran
          exact leads_step leads steps
        · rename_i next steps
          exact ih (leads_step leads steps) ran

end Reading

open Reading in
/-- A record starts with its first member, whatever is made of the rest of its text. -/
theorem eq_object_of_parse?_record {name : String} {value json : Json}
    {members : List (String × Json)} (exact : value.exact = true)
    (parsed : parse? (record ((name, value) :: members)).print = some json) :
    ∃ others, json = .object ((some name, value) :: others) := by
  obtain ⟨mark, after, marks, chars_eq⟩ : ∃ mark after, Token.isMark mark = true ∧
      (record ((name, value) :: members)).chars =
        '\x7b' :: (quote name.toList ++ ':' :: value.chars) ++ mark :: after := by
    cases members with
    | nil => exact ⟨'\x7d', [], rfl, by simp [record, chars, memberChars]⟩
    | cons member members =>
        exact ⟨',', memberChars ((member :: members).map fun member => (some member.1, member.2)),
          rfl, by simp [record, chars, memberChars]⟩
  have valued : Carries ⟨.value, [.member [] (some name)]⟩ value.chars
      (.reading ⟨.separator, [.members [(some name, value)]]⟩) :=
    carries_chars value exact (.inl rfl) rfl
  have begun : Carries start ('\x7b' :: (quote name.toList ++ ':' :: value.chars))
      (.reading ⟨.separator, [.members [(some name, value)]]⟩) :=
    .cons .openObject (fun _ => rfl) rfl (.member (.inr rfl) valued)
  have leads : Leads (some name, value) ⟨.separator, [.members [(some name, value)]]⟩ :=
    Rooted.leads rfl nofun
  obtain ⟨steps, short, carries⟩ := begun
  have delimited : Token.Delimits (mark :: after) := by
    intro char next
    cases next
    exact marks
  have enough : steps ≤ (record ((name, value) :: members)).chars.length + 1 := by
    rw [chars_eq, List.length_append]
    omega
  rw [parse?, print, String.toList_ofList] at parsed
  split at parsed
  · rename_i read rest read_eq
    split at parsed
    · cases parsed
      rw [read?, ← Nat.sub_add_cancel enough, chars_eq, carries _ _ delimited] at read_eq
      exact leads_run leads read_eq
    · cases parsed
  · cases parsed

end EventHub.Json
