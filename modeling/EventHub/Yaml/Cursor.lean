/-!
A place in a YAML text: what is left of it, its line and column, and whether only blanks stand
before it on its line. Between tokens stand blanks, line breaks and comments; a comment must not
touch the token before it.
-/

namespace EventHub.Yaml

structure Mark where
  line : Nat := 0
  column : Nat := 0
  deriving DecidableEq

structure Cursor extends Mark where
  rest : List Char
  fresh : Bool := true

def isSpace (char : Char) : Bool :=
  char == ' ' || char == '\t'

def isFlowIndicator (char : Char) : Bool :=
  char == ',' || char == '[' || char == ']' || char == '\x7b' || char == '\x7d'

def endsLine : List Char → Bool
  | [] => true
  | char :: _ => char == '\n'

/-- A blank, a line break or the end. -/
def endsWord : List Char → Bool
  | [] => true
  | char :: _ => isSpace char || char == '\n'

def lineIsBlank (text : List Char) : Bool :=
  match text.dropWhile isSpace with
  | '#' :: _ => true
  | rest => endsLine rest

/-- Every line break as one character. -/
def normalBreaks : List Char → List Char
  | [] => []
  | '\r' :: '\n' :: rest => '\n' :: normalBreaks rest
  | '\r' :: rest => '\n' :: normalBreaks rest
  | char :: rest => char :: normalBreaks rest

namespace Cursor

/-- The start of a text, which ends before the first null character. -/
def start (text : String) : Cursor where
  rest := normalBreaks (text.toList.takeWhile (· != '\x00'))

def atEnd (cursor : Cursor) : Bool :=
  cursor.rest.isEmpty

def next (cursor : Cursor) : Cursor :=
  match cursor.rest with
  | [] => cursor
  | '\n' :: rest => { rest, line := cursor.line + 1 }
  | char :: rest =>
      { rest, line := cursor.line, column := cursor.column + 1,
        fresh := cursor.fresh && isSpace char }

def advance : Nat → Cursor → Cursor
  | 0, cursor => cursor
  | count + 1, cursor => advance count cursor.next

/-- The characters with a property at a place, and the place behind them. -/
def span (property : Char → Bool) (cursor : Cursor) : List Char × Cursor :=
  let chars := cursor.rest.takeWhile property
  (chars, cursor.advance chars.length)

def lineEnd (cursor : Cursor) : Cursor :=
  (cursor.span (· != '\n')).2

/-- The blanks on a line, and the place behind them and behind a comment. -/
def skipBlanks? (cursor : Cursor) : Option (List Char × Cursor) :=
  let (blanks, after) := cursor.span isSpace
  match after.rest with
  | '#' :: _ => if blanks.isEmpty then none else some (blanks, after.lineEnd)
  | _ => some (blanks, after)

/-- The place behind blanks and a comment, if the line ends there. -/
def toLineEnd? (cursor : Cursor) : Option Cursor :=
  cursor.skipBlanks?.bind fun (_, after) => if endsLine after.rest then some after else none

/-- Three equal characters at the start of a line that stand for themselves. -/
def atMarkOf (char : Char) (cursor : Cursor) : Bool :=
  cursor.column == 0 && cursor.rest.take 3 == [char, char, char] && endsWord (cursor.rest.drop 3)

def atMark (cursor : Cursor) : Bool :=
  cursor.atMarkOf '-' || cursor.atMarkOf '.'

/-- Skips blanks, line breaks and comments. A tab that stands left of `indent` at the start of a
line must not stand before content. -/
def skipGapWith (indent : Int) : Nat → Cursor → Option Cursor
  | 0, cursor => some cursor
  | fuel + 1, cursor =>
      match cursor.rest with
      | '\t' :: rest =>
          if cursor.fresh && cursor.column < indent && !lineIsBlank rest then none
          else skipGapWith indent fuel cursor.next
      | ' ' :: _ | '\n' :: _ => skipGapWith indent fuel cursor.next
      | '#' :: _ => skipGapWith indent fuel cursor.lineEnd
      | _ => some cursor

def skipGap? (indent : Int) (cursor : Cursor) : Option Cursor :=
  cursor.skipGapWith indent cursor.rest.length

end Cursor

end EventHub.Yaml
