import EventHub.Json.Number
import EventHub.Text.Digits

/-!
The lexical elements of JSON (RFC 8259). A string literal may hold any character from U+0020 on
and the escapes of the standard; it denotes a text unless an escaped surrogate stands unpaired.
-/

namespace EventHub.Json

inductive Token where
  | openArray
  | closeArray
  | openObject
  | closeObject
  | comma
  | colon
  | null
  | bool (value : Bool)
  | number (literal : NumberLiteral)
  /-- Holds `none` when the literal denotes no text. -/
  | text (value : Option String)
  deriving DecidableEq

namespace Token

def isSpace (char : Char) : Bool :=
  char == ' ' || char == '\t' || char == '\n' || char == '\r'

def skipSpace (input : List Char) : List Char :=
  input.dropWhile isSpace

/-! Strings. -/

/-- A character written as itself or by a short escape, or a UTF-16 unit written in hexadecimal. -/
inductive Piece where
  | char (value : Char)
  | unit (value : Nat)
  deriving DecidableEq

def isHighSurrogate (unit : Nat) : Bool :=
  0xD800 ≤ unit && unit < 0xDC00

def isLowSurrogate (unit : Nat) : Bool :=
  0xDC00 ≤ unit && unit < 0xE000

def joinSurrogates (high low : Nat) : Char :=
  Char.ofNat (0x10000 + (high - 0xD800) * 0x400 + (low - 0xDC00))

def textOf : List Piece → Option (List Char)
  | [] => some []
  | .char value :: rest => (textOf rest).map (value :: ·)
  | [.unit unit] =>
      if isHighSurrogate unit || isLowSurrogate unit then none else some [Char.ofNat unit]
  | .unit high :: .unit low :: rest =>
      if isHighSurrogate high then
        if isLowSurrogate low then (textOf rest).map (joinSurrogates high low :: ·) else none
      else if isLowSurrogate high then none
      else (textOf (.unit low :: rest)).map (Char.ofNat high :: ·)
  | .unit unit :: .char value :: rest =>
      if isHighSurrogate unit || isLowSurrogate unit then none
      else (textOf rest).map fun tail => Char.ofNat unit :: value :: tail

def shortEscape (char : Char) : Option Char :=
  if char = '"' ∨ char = '\\' ∨ char = '/' then some char
  else if char = 'b' then some '\x08'
  else if char = 'f' then some '\x0c'
  else if char = 'n' then some '\n'
  else if char = 'r' then some '\r'
  else if char = 't' then some '\t'
  else none

/-- The rest of a string literal after its opening quote. -/
def scanPieces : List Char → Option (List Piece × List Char)
  | [] => none
  | '"' :: rest => some ([], rest)
  | '\\' :: 'u' :: first :: second :: third :: fourth :: rest =>
      match Text.inRadix? 16 [first, second, third, fourth] with
      | some unit => (scanPieces rest).map fun (pieces, after) => (.unit unit :: pieces, after)
      | none => none
  | '\\' :: escape :: rest =>
      match shortEscape escape with
      | some char => (scanPieces rest).map fun (pieces, after) => (.char char :: pieces, after)
      | none => none
  | char :: rest =>
      if char = '\\' ∨ char.toNat < 0x20 then none
      else (scanPieces rest).map fun (pieces, after) => (.char char :: pieces, after)

def scanText (input : List Char) : Option (Token × List Char) :=
  (scanPieces input).map fun (pieces, rest) =>
    (.text ((textOf pieces).map String.ofList), rest)

/-! Numbers. -/

def isDigit (char : Char) : Bool :=
  '0' ≤ char && char ≤ '9'

def digitValue (char : Char) : Nat :=
  char.toNat - 48

def scanDigits (input : List Char) : List Nat × List Char :=
  ((input.takeWhile isDigit).map digitValue, input.dropWhile isDigit)

/-- The digits before the point; a leading zero stands alone. -/
def scanWhole (input : List Char) : Option (List Nat × List Char) :=
  match scanDigits input with
  | ([], _) => none
  | (0 :: _ :: _, _) => none
  | scanned => some scanned

def scanFraction : List Char → Option (List Nat × List Char)
  | '.' :: rest =>
      match scanDigits rest with
      | ([], _) => none
      | scanned => some scanned
  | input => some ([], input)

def scanExponentDigits (down : Bool) (input : List Char) :
    Option (Option (Bool × List Nat) × List Char) :=
  match scanDigits input with
  | ([], _) => none
  | (digits, rest) => some (some (down, digits), rest)

def scanSignedExponent : List Char → Option (Option (Bool × List Nat) × List Char)
  | '+' :: rest => scanExponentDigits false rest
  | '-' :: rest => scanExponentDigits true rest
  | input => scanExponentDigits false input

def scanExponent : List Char → Option (Option (Bool × List Nat) × List Char)
  | 'e' :: rest => scanSignedExponent rest
  | 'E' :: rest => scanSignedExponent rest
  | input => some (none, input)

def scanNumber (negative : Bool) (input : List Char) : Option (Token × List Char) := do
  let (whole, rest) ← scanWhole input
  let (fraction, rest) ← scanFraction rest
  let (exponent, rest) ← scanExponent rest
  some (.number { negative, whole, fraction, exponent }, rest)

/-- The first token of an input that does not start with a space. -/
def scan : List Char → Option (Token × List Char)
  | '[' :: rest => some (.openArray, rest)
  | ']' :: rest => some (.closeArray, rest)
  | '{' :: rest => some (.openObject, rest)
  | '}' :: rest => some (.closeObject, rest)
  | ',' :: rest => some (.comma, rest)
  | ':' :: rest => some (.colon, rest)
  | '"' :: rest => scanText rest
  | '-' :: rest => scanNumber true rest
  | 'n' :: 'u' :: 'l' :: 'l' :: rest => some (.null, rest)
  | 't' :: 'r' :: 'u' :: 'e' :: rest => some (.bool true, rest)
  | 'f' :: 'a' :: 'l' :: 's' :: 'e' :: rest => some (.bool false, rest)
  | input => scanNumber false input

end Token

end EventHub.Json
