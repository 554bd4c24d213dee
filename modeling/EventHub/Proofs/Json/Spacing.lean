import EventHub.Json.Reader
import EventHub.Proofs.Json.Lexeme

/-!
Blanks between the tokens of a text. Since no value of a JSON text follows another without a mark
between them, blanks can be put in or taken out wherever two tokens meet.
-/

namespace EventHub.Json

open Token (scan skipSpace isSpace)

/-- The same tokens in the same spelling, with other blanks between them. -/
inductive Respaced : List Char → List Char → Prop where
  | ends {blanks others : List Char} (blank : blanks.all isSpace = true)
      (blankToo : others.all isSpace = true) : Respaced blanks others
  | token {blanks others lexeme rest more : List Char} {token : Token}
      (blank : blanks.all isSpace = true) (blankToo : others.all isSpace = true)
      (scanned : scan (lexeme ++ rest) = some (token, rest)) (later : Respaced rest more) :
      Respaced (blanks ++ lexeme ++ rest) (others ++ lexeme ++ more)

variable {text other : List Char}

theorem skipSpace_blank {blanks : List Char} (blank : blanks.all isSpace = true)
    (rest : List Char) : skipSpace (blanks ++ rest) = skipSpace rest :=
  List.dropWhile_append_of_pos (List.all_eq_true.1 blank)

/-- The token that an input starts with, whatever blanks are in front and whatever comes after. -/
theorem exists_token {lexeme rest : List Char} {token : Token}
    (scanned : scan (lexeme ++ rest) = some (token, rest)) :
    ∃ first others, lexeme = first :: others ∧
      (∀ blanks after, blanks.all isSpace = true →
        skipSpace (blanks ++ lexeme ++ after) = lexeme ++ after) ∧
      ∀ after, ((∃ literal, token = .number literal) → Token.Ends after) →
        scan (lexeme ++ after) = some (token, after) := by
  obtain ⟨first, others, laidOut, solid, scans⟩ := Token.exists_lexeme scanned
  cases List.append_cancel_right laidOut
  refine ⟨first, others, rfl, fun blanks after blank => ?_, scans⟩
  rw [List.append_assoc, skipSpace_blank blank]
  simp [skipSpace, solid]

/-- Where nothing goes on, nothing goes on after other blanks either. -/
theorem Respaced.blank (respaced : Respaced text other) (blank : skipSpace text = []) :
    skipSpace other = [] := by
  cases respaced with
  | ends _ blankToo => exact List.dropWhile_eq_nil_iff.2 (List.all_eq_true.1 blankToo)
  | token blanks _ scanned _ =>
      obtain ⟨first, others, rfl, skips, -⟩ := exists_token scanned
      rw [skips _ _ blanks] at blank
      cases blank

namespace Reading

variable {state : Reading} {value : Json}

theorem run_of_blank {fuel : Nat} (blank : skipSpace text = []) : run fuel state text = none := by
  cases fuel with
  | zero => rfl
  | succ fuel =>
      rw [run, blank]
      rfl

theorem separator_of_step {literal : NumberLiteral} {next : Reading}
    (steps : state.step (.number literal) = some (.reading next)) : next.expects = .separator := by
  have completed {stack : List Frame} {value : Json}
      (completes : complete stack value = some (.reading next)) : next.expects = .separator := by
    unfold complete at completes
    split at completes
    · cases completes
    · cases completes
      rfl
    · cases completes
      rfl
    · cases completes
  obtain ⟨expects, stack⟩ := state
  cases expects with
  | value => exact completed steps
  | firstItem => exact completed steps
  | firstKey | key | colon | separator => cases steps

theorem follows_of_step {token : Token} {progress : Progress} (waits : state.expects = .separator)
    (steps : state.step token = some progress) :
    token = .comma ∨ token = .closeArray ∨ token = .closeObject := by
  obtain ⟨expects, stack⟩ := state
  cases waits
  unfold step at steps
  dsimp only at steps
  split at steps
  · exact .inl rfl
  · exact .inr (.inl rfl)
  · exact .inl rfl
  · exact .inr (.inr rfl)
  · cases steps

theorem ends_of_blank {more : List Char} (blank : skipSpace more = []) : Token.Ends more := by
  refine Token.ends_of_head fun char head => ?_
  obtain ⟨others, rfl⟩ := List.head?_eq_some_iff.1 head
  have space := List.dropWhile_eq_nil_iff.1 blank char List.mem_cons_self
  rw [space, Bool.or_true]

/-- No number goes on where a mark comes next. -/
theorem ends_of_separator {rest more : List Char} (respaced : Respaced rest more)
    (waits : state.expects = .separator) {fuel : Nat} {read : Json × List Char}
    (ran : run fuel state rest = some read) : Token.Ends more := by
  cases respaced with
  | ends blank blankToo =>
      exact ends_of_blank (List.dropWhile_eq_nil_iff.2 (List.all_eq_true.1 blankToo))
  | @token _ others lexeme rest more token blanks blankToo scanned later =>
      obtain ⟨first, following, rfl, skips, -⟩ := exists_token scanned
      have marks : Token.isMark first = true := by
        cases fuel with
        | zero => cases ran
        | succ fuel =>
            rw [run, skips _ _ blanks, scanned] at ran
            cases steps : state.step token with
            | none => simp [steps] at ran
            | some progress => exact Token.isMark_of_scan scanned (follows_of_step waits steps)
      refine Token.ends_of_head fun char head => ?_
      cases others with
      | nil =>
          cases head
          rw [marks, Bool.true_or]
      | cons blank others =>
          cases head
          rw [List.all_eq_true.1 blankToo _ List.mem_cons_self, Bool.or_true]

theorem run_respaced (respaced : Respaced text other) {rest : List Char} {fuel room : Nat}
    (ran : run fuel state text = some (value, rest)) (whole : skipSpace rest = [])
    (enough : other.length < room) :
    ∃ left, run room state other = some (value, left) ∧ skipSpace left = [] := by
  -- On the tokens: before each of them both runs are in the same state.
  induction respaced generalizing state fuel room with
  | @ends blanks others blank blankToo =>
      have nothing : skipSpace blanks = [] :=
        List.dropWhile_eq_nil_iff.2 (List.all_eq_true.1 blank)
      rw [run_of_blank nothing] at ran
      cases ran
  | @token blanks others lexeme after more token blank blankToo scanned later ih =>
      obtain ⟨first, following, rfl, skips, scans⟩ := exists_token scanned
      cases fuel with
      | zero => cases ran
      | succ fuel =>
          cases room with
          | zero => cases enough
          | succ room =>
              have shorter : more.length < room := by
                simp only [List.length_append, List.length_cons] at enough
                omega
              rw [run, skips _ _ blank, scanned] at ran
              rw [run, skips _ _ blankToo]
              cases steps : state.step token with
              | none => simp [steps] at ran
              | some progress =>
                  cases progress with
                  | finished read =>
                      simp only [steps, Option.some.injEq, Prod.mk.injEq] at ran
                      obtain ⟨rfl, rfl⟩ := ran
                      have blank := later.blank whole
                      refine ⟨more, ?_, blank⟩
                      rw [scans more fun _ => ends_of_blank blank]
                      simp only [steps]
                  | reading next =>
                      simp only [steps] at ran
                      have ends : (∃ literal, token = .number literal) → Token.Ends more := by
                        rintro ⟨literal, rfl⟩
                        exact ends_of_separator later (separator_of_step steps) ran
                      rw [scans more ends]
                      simp only [steps]
                      exact ih ran shorter

end Reading

/-- Blanks between tokens make no difference. -/
theorem parse?_respaced {text other : String} {value : Json}
    (respaced : Respaced text.toList other.toList) (parsed : parse? text = some value) :
    parse? other = some value := by
  rw [parse?] at parsed
  split at parsed
  · rename_i read rest read_eq
    rw [Option.ite_none_right_eq_some] at parsed
    obtain ⟨whole, same⟩ := parsed
    cases same
    obtain ⟨left, ran, blank⟩ :=
      Reading.run_respaced respaced read_eq whole (Nat.lt_succ_self other.toList.length)
    rw [parse?, show read? other.toList = some (value, left) from ran]
    exact if_pos blank
  · cases parsed

end EventHub.Json
