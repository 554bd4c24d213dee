import EventHub.Json.Basic
import EventHub.Json.Token

/-!
Reading a JSON value from text. The reader keeps the containers it is inside of as a stack of
frames, so each token is one step, and depth costs nothing.
-/

namespace EventHub.Json

/-- A container being read, its finished parts latest first. -/
inductive Frame where
  | items (done : List Json)
  | members (done : List (Option String × Json))
  | member (done : List (Option String × Json)) (key : Option String)

inductive Expectation where
  | value
  | firstItem
  | firstKey
  | key
  | colon (key : Option String)
  | separator

structure Reading where
  expects : Expectation
  stack : List Frame

inductive Progress where
  | reading (state : Reading)
  | finished (value : Json)

namespace Reading

def start : Reading where
  expects := .value
  stack := []

def complete (stack : List Frame) (value : Json) : Option Progress :=
  match stack with
  | [] => some (.finished value)
  | .items done :: rest => some (.reading ⟨.separator, .items (value :: done) :: rest⟩)
  | .member done key :: rest =>
      some (.reading ⟨.separator, .members ((key, value) :: done) :: rest⟩)
  | .members _ :: _ => none

def beginValue (stack : List Frame) : Token → Option Progress
  | .openArray => some (.reading ⟨.firstItem, .items [] :: stack⟩)
  | .openObject => some (.reading ⟨.firstKey, .members [] :: stack⟩)
  | .null => complete stack .null
  | .bool value => complete stack (.bool value)
  | .number literal =>
      complete stack (match literal.value? with
        | some value => .number value
        | none => .unreadable)
  | .text value =>
      complete stack (match value with
        | some value => .text value
        | none => .unreadable)
  | .closeArray | .closeObject | .comma | .colon => none

def step (state : Reading) (token : Token) : Option Progress :=
  match state.expects with
  | .value => beginValue state.stack token
  | .firstItem =>
      match token, state.stack with
      | .closeArray, .items _ :: rest => complete rest (.array [])
      | token, stack => beginValue stack token
  | .firstKey =>
      match token, state.stack with
      | .closeObject, .members _ :: rest => complete rest (.object [])
      | .text key, stack => some (.reading ⟨.colon key, stack⟩)
      | _, _ => none
  | .key =>
      match token with
      | .text key => some (.reading ⟨.colon key, state.stack⟩)
      | _ => none
  | .colon key =>
      match token, state.stack with
      | .colon, .members done :: rest => some (.reading ⟨.value, .member done key :: rest⟩)
      | _, _ => none
  | .separator =>
      match token, state.stack with
      | .comma, .items done :: rest => some (.reading ⟨.value, .items done :: rest⟩)
      | .closeArray, .items done :: rest => complete rest (.array done.reverse)
      | .comma, .members done :: rest => some (.reading ⟨.key, .members done :: rest⟩)
      | .closeObject, .members done :: rest => complete rest (.object done.reverse)
      | _, _ => none

/-- Reads tokens until a value is finished. Every token takes at least one character, so the
length of the input is fuel enough. -/
def run : Nat → Reading → List Char → Option (Json × List Char)
  | 0, _, _ => none
  | fuel + 1, state, input =>
      match Token.scan (Token.skipSpace input) with
      | none => none
      | some (token, rest) =>
          match state.step token with
          | none => none
          | some (.finished value) => some (value, rest)
          | some (.reading next) => run fuel next rest

end Reading

/-- The value an input starts with, and the input after it. -/
def read? (input : List Char) : Option (Json × List Char) :=
  Reading.run (input.length + 1) Reading.start input

def parse? (text : String) : Option Json :=
  match read? text.toList with
  | some (value, rest) => if Token.skipSpace rest = [] then some value else none
  | none => none

end EventHub.Json
