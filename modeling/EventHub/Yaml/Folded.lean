import EventHub.Text.Digits
import EventHub.Yaml.Cursor

/-!
Scalars that may go on over several lines. Where a line breaks, the blanks around the break are
dropped: one break reads as a blank, and every further one as a line break.
-/

namespace EventHub.Yaml

/-- What stands between two words: the blanks on a line, or the breaks between lines. -/
def foldedGap (blanks : List Char) (breaks : Nat) : List Char :=
  match breaks with
  | 0 => blanks
  | 1 => [' ']
  | breaks + 2 => List.replicate (breaks + 1) '\n'

namespace Cursor

/-- Skips line breaks and the blanks between and behind them; gives the number of breaks. A break
behind a comment does not count, unless it is the first. `skipTab?` treats a tab. -/
def skipBreaksWith (skipTab? : Cursor → Option Cursor) :
    Nat → Nat → Cursor → Option (Nat × Cursor)
  | 0, breaks, cursor => some (breaks, cursor)
  | fuel + 1, breaks, cursor =>
      match cursor.rest with
      | '\n' :: _ =>
          skipBreaksWith skipTab? fuel (if cursor.fresh then breaks + 1 else max breaks 1)
            cursor.next
      | '\t' :: _ => (skipTab? cursor).bind (skipBreaksWith skipTab? fuel breaks)
      | ' ' :: _ => skipBreaksWith skipTab? fuel breaks cursor.next
      | _ => some (breaks, cursor)

def skipBreaks? (skipTab? : Cursor → Option Cursor) (cursor : Cursor) : Option (Nat × Cursor) :=
  cursor.skipBreaksWith skipTab? (cursor.rest.length + 1) 0

/-- The gap behind a word, folded, and the place behind it. -/
def foldGap? (skipTab? : Cursor → Option Cursor) (cursor : Cursor) : Option (List Char × Cursor) :=
  let (blanks, after) := cursor.span isSpace
  (after.skipBreaks? skipTab?).map fun (breaks, last) => (foldedGap blanks breaks, last)

end Cursor

/-! Plain scalars. -/

/-- A word of a plain scalar ends here: at a blank, at the colon behind a key, and inside brackets
at the characters that structure them. -/
def endsPlain (inFlow : Bool) : List Char → Bool
  | [] => true
  | ':' :: rest => endsWord rest || (inFlow && rest.head?.any isFlowIndicator)
  | char :: _ => isSpace char || char == '\n' || (inFlow && isFlowIndicator char)

def plainWord (inFlow : Bool) : List Char → List Char
  | [] => []
  | char :: rest =>
      if endsPlain inFlow (char :: rest) then [] else char :: plainWord inFlow rest

def atFlowDash : List Char → Bool
  | '-' :: char :: _ => isFlowIndicator char
  | _ => false

/-- Left of `limit` a tab stands only on a line without content. -/
def skipPlainTab? (limit : Int) (cursor : Cursor) : Option Cursor :=
  if cursor.column < limit then cursor.toLineEnd? else some cursor.next

/-- What is left of a plain scalar behind `gap`, and the place behind the blanks that follow it.
Outside of brackets, a line left of `limit` belongs to something else. -/
def plainFrom? (inFlow : Bool) (limit : Int) :
    Nat → List Char → Cursor → Option (List Char × Cursor)
  | 0, _, _ => none
  | fuel + 1, gap, cursor =>
      if cursor.atMark || cursor.rest.head? == some '#' then some ([], cursor)
      else if inFlow && atFlowDash cursor.rest then none
      else
        let word := plainWord inFlow cursor.rest
        let after := cursor.advance word.length
        let text := if word.isEmpty then [] else gap ++ word
        if after.atEnd || !endsWord after.rest then some (text, after)
        else
          (after.foldGap? (skipPlainTab? limit)).bind fun (nextGap, start) =>
            if !inFlow && start.column < limit then some (text, start)
            else
              (plainFrom? inFlow limit fuel nextGap start).map fun (more, last) =>
                (text ++ more, last)

def plainText? (inFlow : Bool) (limit : Int) (cursor : Cursor) : Option (List Char × Cursor) :=
  plainFrom? inFlow limit (cursor.rest.length + 1) [] cursor

/-! Quoted scalars. -/

def char? (code : Nat) : Option Char :=
  if code.isValidChar then some (Char.ofNat code) else none

def namedEscape? (char : Char) : Option Char :=
  [('0', '\x00'), ('a', '\x07'), ('b', '\x08'), ('t', '\t'), ('\t', '\t'), ('n', '\n'),
    ('v', '\x0b'), ('f', '\x0c'), ('r', '\r'), ('e', '\x1b'), (' ', ' '), ('"', '"'), ('/', '/'),
    ('\\', '\\'), ('N', '\u0085'), ('_', '\u00a0'), ('L', '\u2028'), ('P', '\u2029')].lookup char

def escapeLength? (char : Char) : Option Nat :=
  [('x', 2), ('u', 4), ('U', 8)].lookup char

def escape? : List Char → Option (Char × Nat)
  | [] => none
  | letter :: rest =>
      match namedEscape? letter, escapeLength? letter with
      | some value, _ => some (value, 1)
      | none, some length =>
          if length ≤ rest.length then
            ((Text.inRadix? 16 (rest.take length)).bind char?).map fun value => (value, length + 1)
          else none
      | none, none => none

/-- A line of a quoted scalar may not start here. -/
def breaksQuoted (indent : Int) (cursor : Cursor) : Bool :=
  cursor.atEnd || cursor.atMark || cursor.column < indent

/-- No tab indents a line of a quoted scalar. -/
def skipQuotedTab? (indent : Int) (cursor : Cursor) : Option Cursor :=
  if cursor.column < indent then none else some cursor.next

/-- What is left of a quoted scalar before its closing quote, and the place behind that. A
backslash at the end of a line joins it to the next one, and only further breaks count. -/
def quotedFrom? (quote : Char) (indent : Int) : Nat → Cursor → Option (List Char × Cursor)
  | 0, _ => none
  | fuel + 1, cursor =>
      let andThen (read : List Char) (next : Cursor) : Option (List Char × Cursor) :=
        (quotedFrom? quote indent fuel next).map fun (text, last) => (read ++ text, last)
      match cursor.rest with
      | [] => none
      | char :: rest =>
          if isSpace char || char == '\n' then
            (cursor.foldGap? (skipQuotedTab? indent)).bind fun (gap, start) =>
              if breaksQuoted indent start then none else andThen gap start
          else if char = quote then
            if quote = '\'' ∧ rest.head? = some '\'' then andThen ['\''] (cursor.advance 2)
            else some ([], cursor.next)
          else if quote = '"' ∧ char = '\\' then
            if rest.head? = some '\n' then
              let joined := cursor.advance 2
              if joined.rest.head? = some '"' then some ([], joined.next)
              else
                (joined.skipBreaks? (skipQuotedTab? indent)).bind fun (breaks, start) =>
                  if breaksQuoted indent start then none
                  else andThen (List.replicate breaks '\n') start
            else
              (escape? rest).bind fun (value, length) =>
                andThen [value] (cursor.advance (length + 1))
          else andThen [char] cursor.next

def quotedText? (indent : Int) (cursor : Cursor) : Option (List Char × Cursor) :=
  match cursor.rest with
  | [] => none
  | quote :: rest => quotedFrom? quote indent (rest.length + 1) cursor.next

end EventHub.Yaml
