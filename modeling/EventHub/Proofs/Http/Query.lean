import EventHub.Http.Query
import EventHub.Proofs.Text.Ascii
import EventHub.Proofs.Text.Split

/-!
What becomes of a query when it is decoded. Characters of ASCII stay as they are, but for the plus
and the percent sign, and a question mark stays whatever is before it.
-/

namespace EventHub

namespace Text

/-- Every byte that can go on with this character is beyond ASCII. -/
def PartialChar.Wide (part : PartialChar) : Prop :=
  0x80 ≤ part.low

theorem PartialChar.wide_ofLead? {byte : UInt8} {part : PartialChar}
    (leads : ofLead? byte = some part) : part.Wide := by
  simp only [ofLead?] at leads
  split at leads
  · rw [← Option.some.inj leads]
    exact UInt8.le_refl 0x80
  · split at leads
    · rw [← Option.some.inj leads, Wide]
      dsimp only
      split <;> decide
    · split at leads
      · rw [← Option.some.inj leads, Wide]
        dsimp only
        split <;> decide
      · cases leads

theorem wide_decodeStart {byte : UInt8} : ∀ part ∈ (decodeStart byte).2, part.Wide := by
  rw [decodeStart]
  split
  · nofun
  · split
    · rename_i part leads
      rintro _ ⟨⟩
      exact PartialChar.wide_ofLead? leads
    · nofun

theorem wide_decodeByte {byte : UInt8} {state : Option PartialChar} :
    ∀ part ∈ (decodeByte byte state).2, part.Wide := by
  cases state with
  | none => exact wide_decodeStart
  | some part =>
      simp only [decodeByte]
      split
      · split
        · nofun
        · rintro _ ⟨⟩
          exact UInt8.le_refl 0x80
      · exact wide_decodeStart

theorem decodeStart_of_ascii {byte : UInt8} (ascii : byte < 0x80) :
    decodeStart byte = ([Char.ofNat byte.toNat], none) := by
  rw [decodeStart, if_pos ascii]

/-- A byte of ASCII ends whatever is under way, and the rest is decoded on its own. -/
theorem decodeFrom_append {mark : UInt8} (ascii : mark < 0x80) (before rest : List UInt8)
    {state : Option PartialChar} (wide : ∀ part ∈ state, part.Wide) :
    decodeFrom state (before ++ mark :: rest) =
      decodeFrom state before ++ Char.ofNat mark.toNat :: decode rest := by
  induction before generalizing state with
  | nil =>
      cases state with
      | none => simp [decodeFrom, decodeByte, decodeStart_of_ascii ascii, decode]
      | some part =>
          have ends : part.accepts mark = false := by
            have apart : ¬part.low ≤ mark :=
              UInt8.not_le.2 (UInt8.lt_of_lt_of_le ascii (wide part rfl))
            simp [PartialChar.accepts, apart]
          simp [decodeFrom, decodeByte, ends, decodeStart_of_ascii ascii, decode]
  | cons byte before ih =>
      simp only [List.cons_append, decodeFrom, ih wide_decodeByte, List.append_assoc]

theorem encode_cons_of_ascii {char : Char} (ascii : char.toNat < 0x80) (rest : List Char) :
    encode (char :: rest) = UInt8.ofNat char.toNat :: encode rest := by
  have single : String.utf8EncodeChar char = [UInt8.ofNat char.toNat] := by
    refine forall_ascii (motive := fun char =>
      String.utf8EncodeChar char = [UInt8.ofNat char.toNat]) ?_ ascii
    decide +kernel
  rw [encode, List.flatMap_cons, single]
  rfl

end Text

namespace Http

open Text (encode decode)

/-- Two hexadecimal digits come next. -/
def startsEscape : List UInt8 → Bool
  | second :: third :: _ => (hexValue? second).isSome && (hexValue? third).isSome
  | _ => false

/-- A byte stays as it is if it starts no escape. -/
theorem percentDecode_cons {first : UInt8} {rest : List UInt8}
    (stays : first ≠ 0x25 ∨ startsEscape rest = false) :
    percentDecode (first :: rest) = first :: percentDecode rest := by
  match rest with
  | [] | [_] => rfl
  | second :: third :: rest =>
      rw [percentDecode]
      split
      · rename_i percent
        split
        · rename_i high low
          simp [startsEscape, high, low, percent] at stays
        · rfl
      · rfl

/-- What is before a byte that no escape holds is decoded on its own. -/
theorem percentDecode_append {mark : UInt8} (noPercent : mark ≠ 0x25)
    (noDigit : hexValue? mark = none) (before rest : List UInt8) :
    percentDecode (before ++ mark :: rest) =
      percentDecode before ++ mark :: percentDecode rest := by
  have next : startsEscape (mark :: rest) = false := by
    cases rest <;> simp [startsEscape, noDigit]
  have afterNext (second : UInt8) : startsEscape (second :: mark :: rest) = false := by
    simp [startsEscape, noDigit]
  fun_induction percentDecode before with
  | case1 => exact percentDecode_cons (.inl noPercent)
  | case2 first =>
      rw [List.singleton_append, percentDecode_cons (.inr next),
        percentDecode_cons (.inl noPercent), List.singleton_append]
  | case3 first second =>
      simp only [List.cons_append, List.nil_append]
      rw [percentDecode_cons (.inr (afterNext second)), percentDecode_cons (.inr next),
        percentDecode_cons (.inl noPercent)]
  | case4 second third later high low isLow isHigh ih =>
      simp only [List.cons_append, percentDecode, isHigh, isLow, ih]
      rfl
  | case5 second third later noEscape ih =>
      have stays : startsEscape (second :: third :: later ++ mark :: rest) = false := by
        rw [Bool.eq_false_iff]
        intro escape
        simp only [List.cons_append, startsEscape, Bool.and_eq_true,
          Option.isSome_iff_exists] at escape
        obtain ⟨⟨high, isHigh⟩, low, isLow⟩ := escape
        exact noEscape high low isHigh isLow
      rw [List.cons_append, percentDecode_cons (.inr stays), ih, List.cons_append]
  | case6 first second third later other ih =>
      rw [List.cons_append, percentDecode_cons (.inl other), ih, List.cons_append]

/-- A question mark cuts a component in two. -/
theorem toList_decodeComponent_append (before after : List Char) :
    (decodeComponent (before ++ '?' :: after)).toList =
      (decodeComponent before).toList ++ '?' :: (decodeComponent after).toList := by
  have encoded : encode ((before ++ '?' :: after).map blankForPlus) =
      encode (before.map blankForPlus) ++ 0x3F :: encode (after.map blankForPlus) := by
    rw [List.map_append, encode, List.flatMap_append]
    rfl
  have idle : ∀ part ∈ (none : Option Text.PartialChar), part.Wide := nofun
  simp only [decodeComponent, String.toList_ofList]
  rw [encoded, percentDecode_append (by decide) (by decide), decode,
    Text.decodeFrom_append (by decide) _ _ idle]
  rfl

theorem mem_decodeComponent (before after : List Char) :
    '?' ∈ (decodeComponent (before ++ '?' :: after)).toList := by
  simp [toList_decodeComponent_append]

/-- Characters of ASCII that are neither a plus nor a percent sign. -/
def isLiteral (char : Char) : Bool :=
  char.toNat < 0x80 && char != '%' && char != '+'

theorem decodeComponent_of_literal {text : List Char}
    (literal : ∀ char ∈ text, isLiteral char = true) :
    decodeComponent text = String.ofList text := by
  have decoded : decode (percentDecode (encode (text.map blankForPlus))) = text := by
    induction text with
    | nil => rfl
    | cons char rest ih =>
        obtain ⟨first, others⟩ := List.forall_mem_cons.1 literal
        simp only [isLiteral, Bool.and_eq_true, decide_eq_true_eq, bne_iff_ne] at first
        obtain ⟨⟨ascii, noPercent⟩, noPlus⟩ := first
        have small : char.toNat < 256 := by omega
        have code : (UInt8.ofNat char.toNat).toNat = char.toNat := UInt8.toNat_ofNat_of_lt' small
        have byte : UInt8.ofNat char.toNat < 0x80 := by
          rw [UInt8.lt_iff_toNat_lt, code]
          exact ascii
        have other : UInt8.ofNat char.toNat ≠ 0x25 := by
          intro same
          have number := congrArg UInt8.toNat same
          rw [code] at number
          exact noPercent (Char.toNat_inj.1 number)
        rw [List.map_cons, blankForPlus, if_neg noPlus, Text.encode_cons_of_ascii ascii,
          percentDecode_cons (.inl other), decode, Text.decodeFrom, Text.decodeByte,
          Text.decodeStart_of_ascii byte, code, Char.ofNat_toNat]
        exact congrArg (char :: ·) (ih others)
  rw [decodeComponent, decoded]

end Http

end EventHub
