import Mathlib.Data.List.TakeWhile
import EventHub.Proofs.Json.Integer

/-!
The characters of a token. They are enough to tell it, whatever comes after; only a number needs to
know that it does not go on.
-/

namespace EventHub.Json

namespace Token

variable {input rest lexeme : List Char} {token : Token}

/-- No number goes on here. -/
structure Ends (rest : List Char) : Prop where
  noDigit : NoDigit rest
  noPoint : rest.head? ≠ some '.'
  noExponent : rest.head? ≠ some 'e' ∧ rest.head? ≠ some 'E'

/-- A number begins here. -/
def BeginsNumber (lexeme : List Char) : Prop :=
  ∃ first others, lexeme = first :: others ∧ isDigit first = true

/-! Numbers. -/

theorem exists_digits {values : List Nat} (read : scanDigits input = (values, rest)) :
    ∃ digits, input = digits ++ rest ∧ (∀ char ∈ digits, isDigit char = true) ∧
      values = digits.map digitValue ∧
      ∀ after, NoDigit after → scanDigits (digits ++ after) = (values, after) := by
  have all : ∀ char ∈ input.takeWhile isDigit, isDigit char = true := fun _ =>
    List.mem_takeWhile_imp
  cases read
  exact ⟨input.takeWhile isDigit, List.takeWhile_append_dropWhile.symm, all, rfl,
    fun after noDigit => scanDigits_append all noDigit⟩

theorem beginsNumber_of_digits {digits : List Char} (all : ∀ char ∈ digits, isDigit char = true)
    (nonempty : digits ≠ []) : BeginsNumber digits := by
  obtain ⟨first, others, rfl⟩ := List.exists_cons_of_ne_nil nonempty
  exact ⟨first, others, rfl, all first List.mem_cons_self⟩

/-- At least one digit, and a leading zero only alone. -/
def isWhole : List Nat → Bool
  | [] | 0 :: _ :: _ => false
  | _ => true

theorem scanWhole_eq_some_iff {whole : List Nat} :
    scanWhole input = some (whole, rest) ↔
      scanDigits input = (whole, rest) ∧ isWhole whole = true := by
  rw [scanWhole]
  generalize scanDigits input = read
  split
  · refine iff_of_false (fun some => by cases some) ?_
    rintro ⟨⟨⟩, whole⟩
    cases whole
  · refine iff_of_false (fun some => by cases some) ?_
    rintro ⟨⟨⟩, whole⟩
    cases whole
  · rename_i nonempty alone
    rw [Option.some.injEq]
    refine ⟨fun same => ⟨same, ?_⟩, And.left⟩
    subst same
    unfold isWhole
    split
    · exact absurd rfl (nonempty _)
    · exact absurd rfl (alone _ _ _)
    · rfl

theorem exists_whole {whole : List Nat} (scanned : scanWhole input = some (whole, rest)) :
    ∃ lexeme, input = lexeme ++ rest ∧ BeginsNumber lexeme ∧
      ∀ after, NoDigit after → scanWhole (lexeme ++ after) = some (whole, after) := by
  obtain ⟨read, valid⟩ := scanWhole_eq_some_iff.1 scanned
  obtain ⟨digits, isInput, all, values, scans⟩ := exists_digits read
  subst values
  have nonempty : digits ≠ [] := by
    rintro rfl
    cases valid
  exact ⟨digits, isInput, beginsNumber_of_digits all nonempty, fun after noDigit =>
    scanWhole_eq_some_iff.2 ⟨scans after noDigit, valid⟩⟩

theorem scanFraction_point_eq_some_iff {fraction : List Nat} :
    scanFraction ('.' :: input) = some (fraction, rest) ↔
      scanDigits input = (fraction, rest) ∧ fraction ≠ [] := by
  rw [scanFraction]
  generalize scanDigits input = read
  split
  · refine iff_of_false (fun some => by cases some) ?_
    rintro ⟨⟨⟩, nonempty⟩
    exact nonempty rfl
  · rename_i nonempty
    rw [Option.some.injEq]
    refine ⟨fun same => ⟨same, ?_⟩, And.left⟩
    rintro rfl
    exact nonempty _ same

theorem scanFraction_of_noPoint (noPoint : input.head? ≠ some '.') :
    scanFraction input = some ([], input) := by
  rw [scanFraction]
  rintro rest rfl
  exact noPoint rfl

theorem exists_fraction {fraction : List Nat}
    (scanned : scanFraction input = some (fraction, rest)) :
    ∃ lexeme, input = lexeme ++ rest ∧
      ∀ after, NoDigit after → after.head? ≠ some '.' →
        NoDigit (lexeme ++ after) ∧ scanFraction (lexeme ++ after) = some (fraction, after) := by
  by_cases point : input.head? = some '.'
  · obtain ⟨input, rfl⟩ := List.head?_eq_some_iff.1 point
    obtain ⟨read, nonempty⟩ := scanFraction_point_eq_some_iff.1 scanned
    obtain ⟨digits, rfl, -, -, scans⟩ := exists_digits read
    refine ⟨'.' :: digits, rfl, fun after noDigit _ => ⟨?_, ?_⟩⟩
    · rintro char ⟨⟩
      rfl
    · exact scanFraction_point_eq_some_iff.2 ⟨scans after noDigit, nonempty⟩
  · rw [scanFraction_of_noPoint point] at scanned
    cases scanned
    exact ⟨[], rfl, fun after noDigit noPoint => ⟨noDigit, scanFraction_of_noPoint noPoint⟩⟩

theorem exists_exponentDigits {down : Bool} {exponent : Option (Bool × List Nat)}
    (scanned : scanExponentDigits down input = some (exponent, rest)) :
    ∃ lexeme, input = lexeme ++ rest ∧ BeginsNumber lexeme ∧
      ∀ after, NoDigit after →
        scanExponentDigits down (lexeme ++ after) = some (exponent, after) := by
  rw [scanExponentDigits] at scanned
  split at scanned
  · cases scanned
  · rename_i values left nonempty read
    cases scanned
    obtain ⟨digits, rfl, all, isValues, scans⟩ := exists_digits read
    have written : digits ≠ [] := by
      rintro rfl
      exact nonempty isValues
    refine ⟨digits, rfl, beginsNumber_of_digits all written, fun after noDigit => ?_⟩
    rw [scanExponentDigits, scans after noDigit]
    split
    · rename_i empty
      cases empty
      exact (nonempty rfl).elim
    · rename_i same
      cases same
      rfl

theorem exists_signed {exponent : Option (Bool × List Nat)}
    (scanned : scanSignedExponent input = some (exponent, rest)) :
    ∃ lexeme, input = lexeme ++ rest ∧
      ∀ after, NoDigit after → scanSignedExponent (lexeme ++ after) = some (exponent, after) := by
  unfold scanSignedExponent at scanned
  split at scanned
  · obtain ⟨lexeme, rfl, -, scans⟩ := exists_exponentDigits scanned
    exact ⟨'+' :: lexeme, rfl, scans⟩
  · obtain ⟨lexeme, rfl, -, scans⟩ := exists_exponentDigits scanned
    exact ⟨'-' :: lexeme, rfl, scans⟩
  · obtain ⟨lexeme, rfl, ⟨first, others, rfl, digit⟩, scans⟩ := exists_exponentDigits scanned
    refine ⟨first :: others, rfl, fun after noDigit => ?_⟩
    rw [List.cons_append, scanSignedExponent]
    · exact scans after noDigit
    · rintro rest ⟨⟩
      cases digit
    · rintro rest ⟨⟩
      cases digit

theorem exists_exponent {exponent : Option (Bool × List Nat)}
    (scanned : scanExponent input = some (exponent, rest)) :
    ∃ lexeme, input = lexeme ++ rest ∧
      ∀ after, Ends after → NoDigit (lexeme ++ after) ∧ (lexeme ++ after).head? ≠ some '.' ∧
        scanExponent (lexeme ++ after) = some (exponent, after) := by
  unfold scanExponent at scanned
  split at scanned
  · obtain ⟨lexeme, rfl, scans⟩ := exists_signed scanned
    refine ⟨'e' :: lexeme, rfl, fun after ends => ⟨?_, by simp, scans after ends.noDigit⟩⟩
    rintro char ⟨⟩
    rfl
  · obtain ⟨lexeme, rfl, scans⟩ := exists_signed scanned
    refine ⟨'E' :: lexeme, rfl, fun after ends => ⟨?_, by simp, scans after ends.noDigit⟩⟩
    rintro char ⟨⟩
    rfl
  · cases scanned
    refine ⟨[], rfl, fun after ends => ⟨ends.noDigit, ends.noPoint, ?_⟩⟩
    rw [List.nil_append, scanExponent]
    · rintro rest rfl
      exact ends.noExponent.1 rfl
    · rintro rest rfl
      exact ends.noExponent.2 rfl

theorem exists_number {negative : Bool} (scanned : scanNumber negative input = some (token, rest)) :
    (∃ literal, token = .number literal) ∧ ∃ lexeme, input = lexeme ++ rest ∧
      BeginsNumber lexeme ∧
      ∀ after, Ends after → scanNumber negative (lexeme ++ after) = some (token, after) := by
  simp only [scanNumber, Option.bind_eq_bind, Option.bind_eq_some_iff] at scanned
  obtain ⟨⟨whole, afterWhole⟩, scannedWhole, ⟨fraction, afterFraction⟩, scannedFraction,
    ⟨exponent, afterExponent⟩, scannedExponent, made⟩ := scanned
  cases made
  obtain ⟨first, rfl, begins, scansFirst⟩ := exists_whole scannedWhole
  obtain ⟨second, rfl, scansSecond⟩ := exists_fraction scannedFraction
  obtain ⟨third, rfl, scansThird⟩ := exists_exponent scannedExponent
  refine ⟨⟨_, rfl⟩, first ++ (second ++ third), by simp, ?_, fun after ends => ?_⟩
  · obtain ⟨char, others, rfl, digit⟩ := begins
    exact ⟨char, others ++ (second ++ third), rfl, digit⟩
  -- From the end, since each part has to know what comes after it.
  · obtain ⟨noDigit, noPoint, exponentEq⟩ := scansThird after ends
    obtain ⟨noDigit, fractionEq⟩ := scansSecond _ noDigit noPoint
    rw [List.append_assoc, List.append_assoc, scanNumber, scansFirst _ noDigit]
    simp [fractionEq, exponentEq]

/-! Strings, and everything else. -/

/-- One piece of a string is told by its own characters. -/
def Spells (lead : List Char) (piece : Piece) : Prop :=
  ∀ input, scanPieces (lead ++ input) =
    (scanPieces input).map fun (pieces, after) => (piece :: pieces, after)

theorem spells_unit {first second third fourth : Char} {unit : Nat}
    (isUnit : Text.inRadix? 16 [first, second, third, fourth] = some unit) :
    Spells ['\\', 'u', first, second, third, fourth] (.unit unit) := by
  intro input
  simp only [List.cons_append, List.nil_append, scanPieces, isUnit]

theorem spells_short {escape char : Char} (isShort : shortEscape escape = some char) :
    Spells ['\\', escape] (.char char) := by
  intro input
  rw [List.cons_append, List.singleton_append, scanPieces, isShort]
  rintro first second third fourth rest rfl
  cases isShort

theorem spells_plain {char : Char} (noQuote : char ≠ '"')
    (plain : ¬(char = '\\' ∨ char.toNat < 0x20)) : Spells [char] (.char char) := by
  intro input
  rw [List.singleton_append, scanPieces, if_neg plain]
  · exact noQuote
  · rintro first second third fourth rest rfl
    exact absurd (.inl rfl) plain
  · rintro escape rest rfl
    exact absurd (.inl rfl) plain

theorem Spells.exists_lexeme {lead : List Char} {piece : Piece} (spells : Spells lead piece)
    {pieces : List Piece}
    (later : ∀ {pieces : List Piece}, scanPieces input = some (pieces, rest) →
      ∃ lexeme, input = lexeme ++ rest ∧
        ∀ after, scanPieces (lexeme ++ after) = some (pieces, after))
    (scanned : ((scanPieces input).map fun (pieces, after) => (piece :: pieces, after)) =
      some (pieces, rest)) :
    ∃ lexeme, lead ++ input = lexeme ++ rest ∧
      ∀ after, scanPieces (lexeme ++ after) = some (pieces, after) := by
  obtain ⟨⟨others, left⟩, scannedOthers, made⟩ := Option.map_eq_some_iff.1 scanned
  cases made
  obtain ⟨lexeme, rfl, scans⟩ := later scannedOthers
  refine ⟨lead ++ lexeme, (List.append_assoc _ _ _).symm, fun after => ?_⟩
  rw [List.append_assoc, spells, scans]
  rfl

theorem exists_pieces {pieces : List Piece} (scanned : scanPieces input = some (pieces, rest)) :
    ∃ lexeme, input = lexeme ++ rest ∧
      ∀ after, scanPieces (lexeme ++ after) = some (pieces, after) := by
  fun_induction scanPieces input generalizing pieces with
  | case1 | case4 | case6 | case7 => cases scanned
  | case2 rest =>
      cases scanned
      exact ⟨['"'], rfl, fun _ => rfl⟩
  | case3 first second third fourth input unit isUnit ih =>
      exact (spells_unit isUnit).exists_lexeme ih scanned
  | case5 escape input noUnit char isShort ih =>
      exact (spells_short isShort).exists_lexeme ih scanned
  | case8 char input noQuote noUnit noEscape plain ih =>
      exact (spells_plain noQuote plain).exists_lexeme ih scanned

/-- The characters of a token, and that they are enough to tell it. -/
theorem exists_lexeme (scanned : scan input = some (token, rest)) :
    ∃ first others, input = first :: others ++ rest ∧ isSpace first = false ∧
      ∀ after, ((∃ literal, token = .number literal) → Ends after) →
        scan (first :: others ++ after) = some (token, after) := by
  unfold scan at scanned
  split at scanned
  case h_7 input =>
    obtain ⟨⟨pieces, left⟩, scannedPieces, made⟩ := Option.map_eq_some_iff.1 scanned
    cases made
    obtain ⟨lexeme, rfl, scans⟩ := exists_pieces scannedPieces
    refine ⟨'"', lexeme, rfl, rfl, fun after _ => ?_⟩
    rw [List.cons_append, scan, scanText, scans]
    rfl
  case h_8 input =>
    obtain ⟨isNumber, lexeme, rfl, -, scans⟩ := exists_number scanned
    exact ⟨'-', lexeme, rfl, rfl, fun after ends => scans after (ends isNumber)⟩
  case h_9 input =>
    cases scanned
    exact ⟨'n', ['u', 'l', 'l'], rfl, rfl, fun _ _ => rfl⟩
  case h_10 input =>
    cases scanned
    exact ⟨'t', ['r', 'u', 'e'], rfl, rfl, fun _ _ => rfl⟩
  case h_11 input =>
    cases scanned
    exact ⟨'f', ['a', 'l', 's', 'e'], rfl, rfl, fun _ _ => rfl⟩
  case h_12 =>
    obtain ⟨isNumber, lexeme, rfl, ⟨first, others, rfl, digit⟩, scans⟩ := exists_number scanned
    refine ⟨first, others, rfl, ?_, fun after ends => ?_⟩
    · exact isSpace_of_isDigit digit
    · exact (scan_of_isDigit digit (others ++ after)).trans (scans after (ends isNumber))
  all_goals
    cases scanned
    exact ⟨_, [], rfl, rfl, fun _ _ => rfl⟩

/-- After a mark or a blank no number goes on. -/
theorem ends_of_head {rest : List Char}
    (stops : ∀ char ∈ rest.head?, (isMark char || isSpace char) = true) : Ends rest := by
  have apart (other : Char) (goesOn : (isMark other || isSpace other) = false) :
      rest.head? ≠ some other := by
    intro head
    rw [stops other head] at goesOn
    cases goesOn
  refine ⟨fun char head => ?_, apart '.' rfl, apart 'e' rfl, apart 'E' rfl⟩
  rw [Bool.eq_false_iff]
  intro digit
  have stop := stops char head
  rw [isSpace_of_isDigit digit, Bool.or_false] at stop
  cases (isDigit_of_isMark stop).symm.trans digit

theorem isMark_of_scan {first : Char} {others : List Char}
    (scanned : scan (first :: others) = some (token, rest))
    (follows : token = .comma ∨ token = .closeArray ∨ token = .closeObject) :
    isMark first = true := by
  unfold scan at scanned
  split at scanned
  case h_2 | h_4 | h_5 =>
    rename_i same
    cases same
    rfl
  case h_7 =>
    obtain ⟨⟨pieces, left⟩, -, made⟩ := Option.map_eq_some_iff.1 scanned
    cases made
    rcases follows with impossible | impossible | impossible <;> cases impossible
  case h_8 | h_12 =>
    obtain ⟨⟨literal, rfl⟩, -⟩ := exists_number scanned
    rcases follows with impossible | impossible | impossible <;> cases impossible
  all_goals
    cases scanned
    rcases follows with impossible | impossible | impossible <;> cases impossible

end Token

end EventHub.Json
