import EventHub.Json.Reader
import EventHub.Proofs.Json.Integer
import EventHub.Proofs.Json.Text

/-!
What is written is read back. This goes for every value but doubles and what no text denotes: the
reader, token by token, finds the value in its written form, whatever container it is in.
-/

namespace EventHub.Json

/-! A value is exact when its written form shows all of it. -/

mutual

def exact : Json → Bool
  | null | bool _ | text _ => true
  | number value => value.isInteger
  | unreadable => false
  | array items => exactItems items
  | object members => exactMembers members

def exactItems : List Json → Bool
  | [] => true
  | item :: rest => item.exact && exactItems rest

def exactMembers : List (Option String × Json) → Bool
  | [] => true
  | (key, value) :: rest => key.isSome && value.exact && exactMembers rest

end

namespace Reading

open Token (Delimits isMark scan skipSpace)

def resume (fuel : Nat) : Progress → List Char → Option (Json × List Char)
  | .reading state, rest => run fuel state rest
  | .finished value, rest => some (value, rest)

/-- Reading a text makes this progress. -/
def Carries (state : Reading) (text : List Char) (progress : Progress) : Prop :=
  ∃ steps ≤ text.length, ∀ fuel rest, Delimits rest →
    run (fuel + steps) state (text ++ rest) = resume fuel progress rest

variable {state middle : Reading} {progress : Progress} {mark : Char} {text more : List Char}

theorem run_token {input rest : List Char} {token : Token}
    (scanned : scan (skipSpace input) = some (token, rest))
    (steps : state.step token = some progress) (fuel : Nat) :
    run (fuel + 1) state input = resume fuel progress rest := by
  rw [run, scanned]
  simp only [steps]
  cases progress <;> rfl

theorem skipSpace_cons {first : Char} (solid : Token.isSpace first = false) (rest : List Char) :
    skipSpace (first :: rest) = first :: rest := by
  simp [skipSpace, solid]

namespace Carries

theorem single (token : Token) (nonempty : text ≠ [])
    (scans : ∀ rest, Delimits rest → scan (skipSpace (text ++ rest)) = some (token, rest))
    (steps : state.step token = some progress) : Carries state text progress :=
  ⟨1, List.length_pos_iff.2 nonempty, fun fuel rest delimits =>
    run_token (scans rest delimits) steps fuel⟩

theorem cons (token : Token) (scans : ∀ rest, scan (skipSpace (mark :: rest)) = some (token, rest))
    (steps : state.step token = some (.reading middle)) (later : Carries middle text progress) :
    Carries state (mark :: text) progress := by
  obtain ⟨count, short, carries⟩ := later
  refine ⟨count + 1, Nat.succ_le_succ short, fun fuel rest delimits => ?_⟩
  rw [← carries fuel rest delimits]
  exact run_token (scans (text ++ rest)) steps (fuel + count)

theorem append (first : Carries state text (.reading middle))
    (later : Carries middle (mark :: more) progress) (marks : isMark mark = true) :
    Carries state (text ++ mark :: more) progress := by
  obtain ⟨count, short, carries⟩ := first
  obtain ⟨countLater, shortLater, carriesLater⟩ := later
  refine ⟨countLater + count, ?_, fun fuel rest delimits => ?_⟩
  · rw [List.length_append, Nat.add_comm]
    exact Nat.add_le_add short shortLater
  · have delimited : Delimits (mark :: more ++ rest) := by
      intro char leads
      cases leads
      exact marks
    rw [← carriesLater fuel rest delimits, List.append_assoc, ← Nat.add_assoc]
    exact carries (fuel + countLater) _ delimited

theorem quote {key : String} (steps : state.step (.text (some key)) = some progress) :
    Carries state (quote key.toList) progress := by
  refine .single (.text (some key)) (by simp [Json.quote]) (fun rest _ => ?_) steps
  have solid : skipSpace (Json.quote key.toList ++ rest) = Json.quote key.toList ++ rest :=
    skipSpace_cons rfl _
  rw [solid, Token.scan_quote, String.ofList_toList]

theorem number {value : Number} (integral : value.isInteger = true)
    (steps : ∀ literal : NumberLiteral, literal.value? = some value →
      state.step (.number literal) = some progress) : Carries state value.chars progress := by
  refine ⟨1, ?_, fun fuel rest delimits => ?_⟩
  · obtain ⟨first, others, chars_eq, -⟩ := Number.head_chars integral
    simp [chars_eq]
  · obtain ⟨literal, scanned, denotes⟩ := Number.scan_chars integral delimits
    have solid : skipSpace (value.chars ++ rest) = value.chars ++ rest := by
      obtain ⟨first, others, chars_eq, solid⟩ := Number.head_chars integral
      rw [chars_eq]
      exact skipSpace_cons solid _
    exact run_token (solid.symm ▸ scanned) (steps literal denotes) fuel

theorem member {expects : Expectation} {stack : List Frame} {done : List (Option String × Json)}
    {name : String} {next : Reading} (opens : expects = .key ∨ expects = .firstKey)
    (valued : Carries ⟨.value, .member done (some name) :: stack⟩ text (.reading next)) :
    Carries ⟨expects, .members done :: stack⟩ (Json.quote name.toList ++ ':' :: text)
      (.reading next) := by
  have named : Carries ⟨expects, .members done :: stack⟩ (Json.quote name.toList)
      (.reading ⟨.colon (some name), .members done :: stack⟩) := by
    refine .quote ?_
    rcases opens with rfl | rfl <;> rfl
  exact named.append (.cons .colon (fun _ => rfl) rfl valued) rfl

end Carries

/-- A value may begin here. -/
def Opens (expects : Expectation) : Prop :=
  expects = .value ∨ expects = .firstItem

theorem step_of_opens {expects : Expectation} (opens : Opens expects) (stack : List Frame)
    {token : Token} (begins : token ≠ .closeArray) :
    step ⟨expects, stack⟩ token = beginValue stack token := by
  rcases opens with rfl | rfl
  · rfl
  · cases token with
    | closeArray => exact absurd rfl begins
    | _ => rfl

mutual

theorem carries_chars (json : Json) (exact : json.exact = true) {expects : Expectation}
    {stack : List Frame} {progress : Progress} (opens : Opens expects)
    (completes : complete stack json = some progress) :
    Carries ⟨expects, stack⟩ json.chars progress := by
  have begins (token : Token) (begins : token ≠ .closeArray) := step_of_opens opens stack begins
  cases json with
  | null =>
      exact .single .null (by simp [chars]) (fun _ _ => rfl) ((begins .null nofun).trans completes)
  | bool value =>
      cases value with
      | true =>
          exact .single (.bool true) (by simp [chars]) (fun _ _ => rfl)
            ((begins (.bool true) nofun).trans completes)
      | false =>
          exact .single (.bool false) (by simp [chars]) (fun _ _ => rfl)
            ((begins (.bool false) nofun).trans completes)
  | number value =>
      rw [chars]
      refine .number (by simpa [Json.exact] using exact) fun literal denotes => ?_
      rw [begins (.number literal) nofun, beginValue, denotes]
      exact completes
  | text value =>
      rw [chars]
      exact .quote ((begins (.text (some value)) nofun).trans completes)
  | unreadable => simp [Json.exact] at exact
  | array items =>
      rw [chars]
      cases items with
      | nil =>
          exact .cons .openArray (fun _ => rfl) (begins .openArray nofun)
            (.single .closeArray (by simp [itemChars]) (fun _ _ => rfl) completes)
      | cons item rest =>
          simp only [Json.exact] at exact
          exact .cons .openArray (fun _ => rfl) (begins .openArray nofun)
            (carries_itemChars (item :: rest) (List.cons_ne_nil item rest) exact (Or.inr rfl) []
              completes)
  | object members =>
      rw [chars]
      cases members with
      | nil =>
          exact .cons .openObject (fun _ => rfl) (begins .openObject nofun)
            (.single .closeObject (by simp [memberChars]) (fun _ _ => rfl) completes)
      | cons member rest =>
          simp only [Json.exact] at exact
          exact .cons .openObject (fun _ => rfl) (begins .openObject nofun)
            (carries_memberChars (member :: rest) (List.cons_ne_nil member rest) exact (Or.inr rfl)
              [] completes)

theorem carries_itemChars (items : List Json) (nonempty : items ≠ [])
    (exact : exactItems items = true) {expects : Expectation} {stack : List Frame}
    {progress : Progress} (opens : Opens expects) (done : List Json)
    (completes : complete stack (.array (done.reverse ++ items)) = some progress) :
    Carries ⟨expects, .items done :: stack⟩ (itemChars items) progress := by
  cases items with
  | nil => exact absurd rfl nonempty
  | cons item rest =>
      rw [exactItems, Bool.and_eq_true] at exact
      have first : Carries ⟨expects, .items done :: stack⟩ item.chars
          (.reading ⟨.separator, .items (item :: done) :: stack⟩) :=
        carries_chars item exact.1 opens rfl
      cases rest with
      | nil =>
          rw [itemChars]
          refine first.append (.single .closeArray (by simp) (fun _ _ => rfl) ?_) rfl
          rw [← List.reverse_cons] at completes
          exact completes
      | cons next rest =>
          rw [itemChars]
          · refine first.append (.cons .comma (fun _ => rfl) rfl ?_) rfl
            refine carries_itemChars (next :: rest) (List.cons_ne_nil next rest) exact.2
              (Or.inl rfl) (item :: done) ?_
            rw [List.reverse_cons, List.append_assoc]
            exact completes
          · simp

theorem carries_memberChars (members : List (Option String × Json)) (nonempty : members ≠ [])
    (exact : exactMembers members = true) {expects : Expectation} {stack : List Frame}
    {progress : Progress} (opens : expects = .key ∨ expects = .firstKey)
    (done : List (Option String × Json))
    (completes : complete stack (.object (done.reverse ++ members)) = some progress) :
    Carries ⟨expects, .members done :: stack⟩ (memberChars members) progress := by
  cases members with
  | nil => exact absurd rfl nonempty
  | cons member rest =>
      obtain ⟨key, value⟩ := member
      rw [exactMembers, Bool.and_eq_true, Bool.and_eq_true] at exact
      obtain ⟨⟨named, exactValue⟩, exactRest⟩ := exact
      obtain ⟨name, rfl⟩ := Option.isSome_iff_exists.1 named
      have valued : Carries ⟨.value, .member done (some name) :: stack⟩ value.chars
          (.reading ⟨.separator, .members ((some name, value) :: done) :: stack⟩) :=
        carries_chars value exactValue (Or.inl rfl) rfl
      have first := Carries.member opens valued
      cases rest with
      | nil =>
          rw [memberChars]
          refine first.append (.single .closeObject (by simp) (fun _ _ => rfl) ?_) rfl
          rw [← List.reverse_cons] at completes
          exact completes
      | cons next rest =>
          rw [memberChars]
          · refine first.append (.cons .comma (fun _ => rfl) rfl ?_) rfl
            refine carries_memberChars (next :: rest) (List.cons_ne_nil next rest) exactRest
              (Or.inl rfl) ((some name, value) :: done) ?_
            rw [List.reverse_cons, List.append_assoc]
            exact completes
          · simp

end

end Reading

/-- The written form of an exact value is read as the value. -/
theorem parse?_print {json : Json} (exact : json.exact = true) : parse? json.print = some json := by
  obtain ⟨steps, short, carries⟩ :=
    Reading.carries_chars json exact (Or.inl rfl)
      (show Reading.complete [] json = some (.finished json) from rfl)
  have run_eq := carries (json.chars.length + 1 - steps) [] nofun
  rw [Nat.sub_add_cancel (by omega), List.append_nil] at run_eq
  have read_eq : read? json.chars = some (json, []) := run_eq
  rw [parse?, print, String.toList_ofList, read_eq]
  rfl

end EventHub.Json
