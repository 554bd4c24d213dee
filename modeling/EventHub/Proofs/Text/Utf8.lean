import Mathlib.Data.List.Lex
import Mathlib.Tactic.SplitIfs

/-!
Names are compared character by character. Their encodings in UTF-8, compared byte by byte, come in
the same order.
-/

namespace EventHub.Text

def utf8 (text : String) : List UInt8 :=
  text.toUTF8.data.toList

theorem utf8_eq (text : String) : utf8 text = text.toList.flatMap String.utf8EncodeChar := by
  rw [utf8, String.toUTF8, ← String.utf8Encode_toList, List.utf8Encode,
    List.toList_data_toByteArray]

theorem toList_loop (bytes : ByteArray) (index : Nat) (done : List UInt8) :
    ByteArray.toList.loop bytes index done = done.reverse ++ bytes.data.toList.drop index := by
  fun_induction ByteArray.toList.loop bytes index done with
  | case1 index done more ih =>
      have inside : index < bytes.data.toList.length := more
      rw [ih, List.drop_eq_getElem_cons inside]
      simp [ByteArray.get!, more]
  | case2 index done finished =>
      rw [List.drop_eq_nil_of_le (Nat.le_of_not_lt finished), List.append_nil]

theorem toList_toUTF8 (text : String) : text.toUTF8.toList = utf8 text := by
  rw [ByteArray.toList, toList_loop]
  rfl

theorem utf8_inj {first second : String} : utf8 first = utf8 second ↔ first = second := by
  rw [utf8, utf8, Array.toList_inj, ← ByteArray.ext_iff]
  exact String.toByteArray_inj

theorem cons_ofNat_lt {low high : Nat} {after later : List UInt8} (bounded : high < 256)
    (le : low ≤ high) (rest : low = high → after < later) :
    UInt8.ofNat low :: after < UInt8.ofNat high :: later := by
  rw [List.cons_lt_cons_iff]
  rcases Nat.lt_or_eq_of_le le with less | same
  · refine .inl (UInt8.lt_iff_toNat_lt.2 ?_)
    rw [UInt8.toNat_ofNat_of_lt' (Nat.lt_trans less bounded), UInt8.toNat_ofNat_of_lt' bounded]
    exact less
  · exact .inr ⟨congrArg UInt8.ofNat same, rest same⟩

/-- The encodings of two characters differ in some byte, so that nothing that follows matters. -/
theorem encode_lt {first second : Char} (less : first < second) (after later : List UInt8) :
    String.utf8EncodeChar first ++ after < String.utf8EncodeChar second ++ later := by
  have codes : first.val.toNat < second.val.toNat := less
  have bounded : second.val.toNat < 0x110000 := by
    rcases second.valid with small | ⟨-, large⟩
    · exact Nat.lt_trans small (by decide)
    · exact large
  simp only [String.utf8EncodeChar]
  generalize first.val.toNat = low at *
  generalize second.val.toNat = high at *
  -- Byte by byte the lower code has no higher byte, and somewhere it has a lower one.
  split_ifs
  all_goals
    repeat refine cons_ofNat_lt (by omega) (by omega) fun _ => ?_
    exfalso
    omega

theorem flatMap_encode_lt {first second : List Char} (less : first < second) :
    first.flatMap String.utf8EncodeChar < second.flatMap String.utf8EncodeChar := by
  induction first generalizing second with
  | nil =>
      cases second with
      | nil => cases less
      | cons char rest =>
          rw [List.flatMap_nil, List.flatMap_cons]
          cases encoded : String.utf8EncodeChar char with
          | nil => exact absurd encoded String.utf8EncodeChar_ne_nil
          | cons byte bytes => exact List.nil_lt_cons byte _
  | cons char rest ih =>
      cases second with
      | nil => cases less
      | cons other others =>
          rw [List.flatMap_cons, List.flatMap_cons]
          rcases List.cons_lt_cons_iff.1 less with lower | ⟨rfl, later⟩
          · exact encode_lt lower _ _
          · exact List.append_left_lt (ih later)

theorem utf8_lt_iff {first second : String} : utf8 first < utf8 second ↔ first < second := by
  rw [utf8_eq, utf8_eq]
  refine ⟨fun less => ?_, flatMap_encode_lt⟩
  by_contra notLess
  by_cases greater : second < first
  · exact List.lt_asymm less (flatMap_encode_lt greater)
  · have same : first = second :=
      String.le_antisymm (String.not_lt.1 greater) (String.not_lt.1 notLess)
    rw [same] at less
    exact List.lt_irrefl _ less

theorem utf8_le_iff {first second : String} : utf8 first ≤ utf8 second ↔ first ≤ second := by
  rw [← List.not_lt, utf8_lt_iff, String.not_lt]

end EventHub.Text
