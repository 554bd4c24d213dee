import EventHub.Text.Ascii

/-!
The content types that announce a JSON body: `application/json` and every `application/…+json`,
in any letter case and with any well-formed parameters.
-/

namespace EventHub.Http

def isTokenChar (char : Char) : Bool :=
  char.isAlphanum || "!#$%&'*+-.^_|~".toList.contains char || char.toNat == 0x60

/-- The subtype and its suffix: what follows the last plus sign that is not the first character. -/
def splitSuffix (subtype : List Char) : List Char × Option (List Char) :=
  match subtype with
  | [] => ([], none)
  | first :: rest =>
      let suffix := rest.reverse.takeWhile fun char => char ≠ '+'
      if suffix.length < rest.length then
        (first :: rest.take (rest.length - suffix.length - 1), some suffix.reverse)
      else (subtype, none)

/-- What may stand between quotation marks; a quotation mark only where it starts a value. -/
def isQuotedChar (char : Char) : Bool :=
  ' ' ≤ char && char.toNat ≠ 0x7F

/-- The parameters behind a value in quotes, from its first character on. A value is not empty,
and only blanks stand between its closing quote and the next semicolon. -/
def afterQuoted? : List Char → Option (List Char)
  | [] => none
  | first :: rest =>
      let isContent (char : Char) : Bool := isQuotedChar char && char != '"'
      match isQuotedChar first, rest.dropWhile isContent with
      | true, '"' :: after =>
          match after.dropWhile (· == ' ') with
          | [] => some []
          | ';' :: parameters => some parameters
          | _ => none
      | _, _ => none

/-- Whether parameters after the semicolon are well formed; each takes at least one character. -/
def parametersValid : Nat → List Char → Bool
  | 0, _ => false
  | _ + 1, [] => true
  | fuel + 1, ' ' :: rest => parametersValid fuel rest
  | fuel + 1, text =>
      let name := text.takeWhile isTokenChar
      match name, text.dropWhile isTokenChar with
      | _ :: _, '=' :: '"' :: value =>
          match afterQuoted? value with
          | some rest => parametersValid fuel rest
          | none => false
      | _ :: _, '=' :: value =>
          match value.takeWhile isTokenChar, value.dropWhile isTokenChar with
          | _, [] => true
          | _ :: _, ';' :: rest => parametersValid fuel rest
          | _, _ => false
      | _, _ => false

def announcesJson (contentType : List Char) : Bool :=
  let text := Text.lower contentType
  let major := text.takeWhile isTokenChar
  match text.dropWhile isTokenChar with
  | '/' :: rest =>
      let subtype := rest.takeWhile isTokenChar
      let wellFormed :=
        match rest.dropWhile isTokenChar with
        | [] => true
        | ';' :: parameters =>
            !subtype.isEmpty && parametersValid (parameters.length + 1) parameters
        | _ => false
      let (name, suffix) := splitSuffix subtype
      let json := "json".toList
      wellFormed && major == "application".toList && (name == json || suffix == some json)
  | _ => false

end EventHub.Http
