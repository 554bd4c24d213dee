import EventHub.Json.Number
import EventHub.Json.Token

/-!
Integers as they are written and read. The digits of an integer are scanned as one number token,
which denotes the integer as long as it fits 64 bits.
-/

namespace EventHub.Json

open EventHub.Decimal

/-- What may come after a value in a text. -/
def Token.isMark (char : Char) : Bool :=
  char = ',' || char = ':' || char = ']' || char = '}'

/-- The rest of a text does not go on with the token before it. -/
def Token.Delimits (rest : List Char) : Prop :=
  ∀ char ∈ rest.head?, isMark char = true

namespace Token

theorem isDigit_eq (char : Char) : isDigit char = char.isDigit := by
  simp [isDigit, Char.isDigit, Char.le_def, UInt32.le_iff_toNat_le]

theorem isDigit_of_mem_digitsOf {value : Nat} {char : Char} (member : char ∈ digitsOf value) :
    isDigit char = true := by
  rw [isDigit_eq]
  exact Nat.isDigit_of_mem_toDigits (by decide) (by decide) member

theorem isDigit_of_isMark {char : Char} (mark : isMark char = true) : isDigit char = false := by
  simp only [isMark, Bool.or_eq_true, decide_eq_true_eq] at mark
  rcases mark with ((rfl | rfl) | rfl) | rfl <;> rfl

theorem isSpace_of_isDigit {char : Char} (digit : isDigit char = true) : isSpace char = false := by
  rw [Bool.eq_false_iff]
  intro space
  simp only [isSpace, Bool.or_eq_true, beq_iff_eq] at space
  rcases space with ((rfl | rfl) | rfl) | rfl <;> cases digit

/-- The digits of a number do not go on here. -/
def NoDigit (rest : List Char) : Prop :=
  ∀ char ∈ rest.head?, isDigit char = false

theorem Delimits.noDigit {rest : List Char} (delimits : Delimits rest) : NoDigit rest :=
  fun char head => isDigit_of_isMark (delimits char head)

theorem scanDigits_append {digits rest : List Char} (all : ∀ char ∈ digits, isDigit char = true)
    (noDigit : NoDigit rest) : scanDigits (digits ++ rest) = (digits.map digitValue, rest) := by
  have stops : rest.takeWhile isDigit = [] ∧ rest.dropWhile isDigit = rest := by
    cases rest with
    | nil => exact ⟨rfl, rfl⟩
    | cons char rest => simp [noDigit char rfl]
  rw [scanDigits, List.takeWhile_append_of_pos all, List.dropWhile_append_of_pos all, stops.1,
    stops.2, List.append_nil]

theorem digitValue_digitChar {digit : Nat} (small : digit < 10) :
    digitValue digit.digitChar = digit := by
  have all_digits : ∀ digit < 10, digitValue (Nat.digitChar digit) = digit := by decide
  exact all_digits digit small

theorem digitsOf_eq (value : Nat) :
    digitsOf value = if value < 10 then [value.digitChar]
      else digitsOf (value / 10) ++ [(value % 10).digitChar] :=
  Nat.toDigits_eq_if (by decide)

/-- Only zero is written with a leading zero. -/
theorem head?_digitsOf {value : Nat} (positive : 0 < value) {first : Char}
    (leading : (digitsOf value).head? = some first) : digitValue first ≠ 0 := by
  induction value using Nat.strongRecOn with
  | _ value ih =>
      rw [digitsOf_eq] at leading
      split at leading
      · rename_i small
        cases leading
        rw [digitValue_digitChar small]
        exact Nat.ne_of_gt positive
      · rename_i large
        have shorter : value / 10 < value := Nat.div_lt_self positive (by decide)
        rw [List.head?_append, Option.or_eq_some_iff] at leading
        rcases leading with leading | ⟨nothing, -⟩
        · exact ih (value / 10) shorter (Nat.div_pos (Nat.not_lt.1 large) (by decide)) leading
        · exact absurd (List.head?_eq_none_iff.1 nothing) Nat.toDigits_ne_nil

theorem scanWhole_digitsOf (value : Nat) {rest : List Char} (delimits : Delimits rest) :
    scanWhole (digitsOf value ++ rest) = some ((digitsOf value).map digitValue, rest) := by
  rw [scanWhole, scanDigits_append (fun _ => isDigit_of_mem_digitsOf) delimits.noDigit]
  cases digits : digitsOf value with
  | nil => exact absurd digits Nat.toDigits_ne_nil
  | cons first others =>
      cases others with
      | nil => split <;> simp_all
      | cons second others =>
          have positive : 0 < value := by
            rw [Nat.pos_iff_ne_zero]
            rintro rfl
            cases digits
          have leading := head?_digitsOf positive (by rw [digits]; rfl)
          split <;> simp_all

theorem scanNumber_digitsOf (negative : Bool) (value : Nat) {rest : List Char}
    (delimits : Delimits rest) :
    scanNumber negative (digitsOf value ++ rest) =
      some (.number ⟨negative, (digitsOf value).map digitValue, [], none⟩, rest) := by
  have fraction : scanFraction rest = some ([], rest) := by
    rw [scanFraction]
    rintro after rfl
    exact absurd (delimits '.' rfl) (by decide)
  have exponent : scanExponent rest = some (none, rest) := by
    rw [scanExponent]
    · rintro after rfl
      exact absurd (delimits 'e' rfl) (by decide)
    · rintro after rfl
      exact absurd (delimits 'E' rfl) (by decide)
  rw [scanNumber, scanWhole_digitsOf value delimits]
  simp [fraction, exponent]

theorem scan_of_isDigit {first : Char} (digit : isDigit first = true) (rest : List Char) :
    scan (first :: rest) = scanNumber false (first :: rest) := by
  rw [scan]
  all_goals
    rintro after same
    cases same
    cases digit

end Token

namespace NumberLiteral

open Token (digitValue)

theorem le_ofDigitChars (digits : List Char) (init : Nat) :
    init ≤ Nat.ofDigitChars 10 digits init := by
  induction digits generalizing init with
  | nil => exact Nat.le_refl init
  | cons char rest ih =>
      rw [Nat.ofDigitChars_cons]
      exact Nat.le_trans (by omega) (ih _)

/-- A significand takes all digits of a number that fits 64 bits. -/
theorem gather_digitValues {digits : List Char} {init : Nat}
    (fits : Nat.ofDigitChars 10 digits init < UInt64.size) :
    gather init (digits.map digitValue) = (Nat.ofDigitChars 10 digits init, []) := by
  induction digits generalizing init with
  | nil => rfl
  | cons char rest ih =>
      have value_eq : init * 10 + digitValue char = 10 * init + (char.toNat - '0'.toNat) := by
        rw [Nat.mul_comm]
        rfl
      rw [Nat.ofDigitChars_cons] at fits ⊢
      rw [List.map_cons, gather, value_eq,
        if_pos (Nat.lt_of_le_of_lt (le_ofDigitChars rest _) fits)]
      exact ih fits

theorem value?_digitsOf (negative : Bool) {value : Nat} (fits : value < UInt64.size) :
    value? ⟨negative, (digitsOf value).map digitValue, [], none⟩ =
      some (integer negative value) := by
  have read_eq : Nat.ofDigitChars 10 (digitsOf value) 0 = value :=
    Nat.ofDigitChars_toDigits (by decide) (by decide)
  rw [← read_eq] at fits
  have gathered := gather_digitValues fits
  rw [read_eq] at gathered
  simp [value?, gathered]

end NumberLiteral

/-- An integer, which is written with all its digits. -/
def Number.isInteger : Number → Bool
  | natural _ | negSucc _ => true
  | double _ => false

theorem Number.head_chars {number : Number} (integral : number.isInteger = true) :
    ∃ first others, number.chars = first :: others ∧ Token.isSpace first = false := by
  cases number with
  | double value => cases integral
  | negSucc value => exact ⟨_, _, rfl, rfl⟩
  | natural value =>
      rw [chars]
      cases digits : digitsOf value.toNat with
      | nil => exact absurd digits Nat.toDigits_ne_nil
      | cons first others =>
          have digit := Token.isDigit_of_mem_digitsOf (digits ▸ List.mem_cons_self)
          exact ⟨first, others, rfl, Token.isSpace_of_isDigit digit⟩

open Token NumberLiteral in
theorem Number.scan_chars {number : Number} (integral : number.isInteger = true)
    {rest : List Char} (delimits : Delimits rest) :
    ∃ literal, scan (number.chars ++ rest) = some (.number literal, rest) ∧
      literal.value? = some number := by
  cases number with
  | double value => cases integral
  | natural value =>
      refine ⟨⟨false, (digitsOf value.toNat).map digitValue, [], none⟩, ?_, ?_⟩
      · have scanned := scanNumber_digitsOf false value.toNat delimits
        rw [chars]
        cases digits : digitsOf value.toNat with
        | nil => exact absurd digits Nat.toDigits_ne_nil
        | cons first others =>
            have digit : isDigit first = true :=
              isDigit_of_mem_digitsOf (digits ▸ List.mem_cons_self)
            rw [digits] at scanned
            exact (scan_of_isDigit digit _).trans scanned
      · rw [value?_digitsOf false value.toNat_lt]
        simp [integer]
  | negSucc value =>
      refine ⟨⟨true, (digitsOf (value.val + 1)).map digitValue, [], none⟩, ?_, ?_⟩
      · exact scanNumber_digitsOf true (value.val + 1) delimits
      · have fits : value.val + 1 < UInt64.size := Nat.lt_of_le_of_lt value.isLt (by decide)
        have bounds : 0 < value.val + 1 ∧ value.val + 1 ≤ 0x8000000000000000 := by omega
        rw [value?_digitsOf true fits, integer, if_pos rfl, dif_pos bounds]
        rfl

end EventHub.Json
