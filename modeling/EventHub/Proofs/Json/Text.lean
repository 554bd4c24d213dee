import EventHub.Json.Printer
import EventHub.Json.Token

/-!
Strings as they are written and read. Whatever characters a text has, its literal is scanned as one
token that denotes the text.
-/

namespace EventHub.Json

namespace Token

theorem textOf_unit {unit : Nat} (scalar : unit < 0xD800) (rest : List Piece) :
    textOf (.unit unit :: rest) = (textOf rest).map (Char.ofNat unit :: ·) := by
  have high : isHighSurrogate unit = false := by
    simp only [isHighSurrogate, Bool.and_eq_false_iff, decide_eq_false_iff_not]
    omega
  have low : isLowSurrogate unit = false := by
    simp only [isLowSurrogate, Bool.and_eq_false_iff, decide_eq_false_iff_not]
    omega
  cases rest with
  | nil => simp [textOf, high, low]
  | cons piece rest =>
      cases piece with
      | char value =>
          simp only [textOf, high, low, Bool.or_self, Option.map_map]
          rfl
      | unit next => simp [textOf, high, low]

theorem inRadix?_hexDigit {value : Nat} (control : value < 0x20) :
    Text.inRadix? 16 ['0', '0', hexDigit (value / 16), hexDigit (value % 16)] = some value := by
  have all_controls : ∀ value < 0x20,
      Text.inRadix? 16 ['0', '0', hexDigit (value / 16), hexDigit (value % 16)] = some value := by
    decide
  exact all_controls value control

theorem scanPieces_escapeChar (char : Char) :
    ∃ piece, (∀ pieces, textOf (piece :: pieces) = (textOf pieces).map (char :: ·)) ∧
      ∀ rest, scanPieces (escapeChar char ++ rest) =
        (scanPieces rest).map fun (pieces, after) => (piece :: pieces, after) := by
  have spelled : ∀ pieces, textOf (.char char :: pieces) = (textOf pieces).map (char :: ·) :=
    fun _ => rfl
  by_cases short : char ∈ ['"', '\\', '\n', '\r', '\t', '\x08', '\x0c']
  · refine ⟨.char char, spelled, ?_⟩
    simp only [List.mem_cons, List.not_mem_nil, or_false] at short
    rcases short with rfl | rfl | rfl | rfl | rfl | rfl | rfl <;> exact fun _ => rfl
  · simp only [List.mem_cons, List.not_mem_nil, or_false, not_or] at short
    obtain ⟨quote, backslash, newline, carriage, tab, backspace, formFeed⟩ := short
    simp only [escapeChar, quote, backslash, newline, carriage, tab, backspace, formFeed, if_false]
    split
    · rename_i control
      refine ⟨.unit char.toNat, fun pieces => ?_, fun rest => ?_⟩
      · rw [textOf_unit (by omega), Char.ofNat_toNat]
      · simp [scanPieces, inRadix?_hexDigit control]
    · rename_i visible
      refine ⟨.char char, spelled, fun rest => ?_⟩
      simp [scanPieces, backslash, visible]

theorem scanPieces_quoted (text rest : List Char) :
    ∃ pieces, scanPieces (text.flatMap escapeChar ++ '"' :: rest) = some (pieces, rest) ∧
      textOf pieces = some text := by
  induction text with
  | nil => exact ⟨[], rfl, rfl⟩
  | cons char text ih =>
      obtain ⟨pieces, scanned, denotes⟩ := ih
      obtain ⟨piece, spelled, scans⟩ := scanPieces_escapeChar char
      refine ⟨piece :: pieces, ?_, ?_⟩
      · rw [List.flatMap_cons, List.append_assoc, scans, scanned]
        rfl
      · rw [spelled, denotes]
        rfl

theorem scan_quote (text rest : List Char) :
    scan (quote text ++ rest) = some (.text (some (String.ofList text)), rest) := by
  obtain ⟨pieces, scanned, denotes⟩ := scanPieces_quoted text rest
  have scan_eq : scan (quote text ++ rest) = scanText (text.flatMap escapeChar ++ '"' :: rest) := by
    simp [quote, scan]
  rw [scan_eq, scanText, scanned]
  simp [denotes]

end Token

end EventHub.Json
