import EventHub.Yaml.Folded

/-!
Block scalars: the lines below a header that are indented as far as the first one. Their breaks
are kept, or folded between lines that start with content.
-/

namespace EventHub.Yaml

/-- What becomes of the breaks behind the last line. -/
inductive Chomping where
  | strip
  | clip
  | keep
  deriving DecidableEq

structure BlockHeader where
  folded : Bool
  chomping : Chomping := .clip
  /-- How far the lines stand to the right of the block around them, where the header says so. -/
  increment : Option Nat := none

namespace BlockHeader

def chomping? : Char → Option Chomping
  | '-' => some .strip
  | '+' => some .keep
  | _ => none

/-- The marks behind the indicator, in either order, and how many there are. A width of zero is
refused. -/
def read? (folded : Bool) (text : List Char) : Option (BlockHeader × Nat) :=
  let chomping := text.head?.bind chomping?
  let afterChomping := if chomping.isSome then text.tail else text
  let digit := afterChomping.head?.filter Char.isDigit
  let increment := digit.map fun char => char.toNat - 48
  let late := if chomping.isNone ∧ digit.isSome then text.tail.head?.bind chomping? else none
  if digit = some '0' then none
  else
    some ({ folded, chomping := (chomping.or late).getD .clip, increment },
      chomping.toList.length + digit.toList.length + late.toList.length)

end BlockHeader

namespace Cursor

/-- Skips empty lines, and the blanks before content up to a width. -/
def skipIndentWith (width : Nat) : Nat → Nat → Cursor → Nat × Cursor
  | 0, breaks, cursor => (breaks, cursor)
  | fuel + 1, breaks, cursor =>
      match cursor.rest with
      | '\n' :: _ => skipIndentWith width fuel (breaks + 1) cursor.next
      | ' ' :: _ =>
          if cursor.column < width then skipIndentWith width fuel breaks cursor.next
          else (breaks, cursor)
      | _ => (breaks, cursor)

def skipIndent (width : Nat) (cursor : Cursor) : Nat × Cursor :=
  cursor.skipIndentWith width (cursor.rest.length + 1) 0

/-- Skips empty lines and the blanks before content; gives the widest line of blanks as well. -/
def skipMarginWith : Nat → Nat → Nat → Cursor → Nat × Nat × Cursor
  | 0, width, breaks, cursor => (width, breaks, cursor)
  | fuel + 1, width, breaks, cursor =>
      match cursor.rest with
      | '\n' :: _ => skipMarginWith fuel (max width cursor.column) (breaks + 1) cursor.next
      | ' ' :: _ => skipMarginWith fuel width breaks cursor.next
      | _ => (max width cursor.column, breaks, cursor)

def skipMargin (cursor : Cursor) : Nat × Nat × Cursor :=
  cursor.skipMarginWith (cursor.rest.length + 1) 0 0

end Cursor

/-- The lines read so far: whether a break is pending behind the last one, how many empty lines
follow, and whether the last one started with a blank. -/
structure BlockLines where
  text : List Char := []
  pending : Bool := false
  emptyLines : Nat
  indented : Bool := false
  cursor : Cursor

namespace BlockLines

def breaks (count : Nat) : List Char :=
  List.replicate count '\n'

def pendingBreak (lines : BlockLines) : List Char :=
  if lines.pending then ['\n'] else []

def joint (folded startsBlank : Bool) (lines : BlockLines) : List Char :=
  if folded && lines.pending && !lines.indented && !startsBlank then
    if lines.emptyLines = 0 then [' '] else breaks lines.emptyLines
  else lines.pendingBreak ++ breaks lines.emptyLines

def read (folded : Bool) (width : Nat) : Nat → BlockLines → BlockLines
  | 0, lines => lines
  | fuel + 1, lines =>
      if lines.cursor.column ≠ width ∨ lines.cursor.atEnd ∨ lines.cursor.atMark then lines
      else
        let startsBlank := lines.cursor.rest.head?.any isSpace
        let (content, after) := lines.cursor.span (· != '\n')
        let text := lines.text ++ lines.joint folded startsBlank ++ content
        if after.atEnd then
          { text, emptyLines := 0, indented := startsBlank, cursor := after }
        else
          let (emptyLines, next) := after.next.skipIndent width
          read folded width fuel
            { text, pending := true, emptyLines, indented := startsBlank, cursor := next }

/-- A last line that the text ends in without a break counts as ended. -/
def chomp (chomping : Chomping) (width : Nat) (lines : BlockLines) : List Char :=
  let unended := lines.cursor.atEnd && max width 1 ≤ lines.cursor.column
  match chomping with
  | .strip => lines.text
  | .clip => lines.text ++ lines.pendingBreak ++ (if unended then ['\n'] else [])
  | .keep =>
      lines.text ++ lines.pendingBreak ++ (if unended then ['\n'] else []) ++
        breaks lines.emptyLines

/-- What a scalar without content reads as, behind a header that its line ends or not. -/
def ofNothing (chomping : Chomping) (headerEnds : Bool) (emptyLines : Nat) : List Char :=
  match chomping with
  | .strip => []
  | .clip => if headerEnds then ['\n'] else []
  | .keep => if headerEnds then breaks (max emptyLines 1) else []

end BlockLines

/-- A block scalar from its indicator on, inside a block at `indent`. -/
def blockText? (indent : Int) (cursor : Cursor) : Option (List Char × Cursor) := do
  let (header, length) ← BlockHeader.read? (cursor.rest.head? == some '>') cursor.rest.tail
  let headerEnd ← (cursor.advance (length + 1)).toLineEnd?
  let start := headerEnd.next
  if start.rest.head? = some '\t' then none
  else
    let (width, emptyLines, first) :=
      match header.increment with
      | some increment =>
          let width := (max indent 0).toNat + increment
          (width, start.skipIndent width)
      | none =>
          let (widest, emptyLines, first) := start.skipMargin
          let width := max widest (indent + 1).toNat
          (if 0 < indent then max width 1 else width, emptyLines, first)
    if first.atEnd then
      some (BlockLines.ofNothing header.chomping (first.line != cursor.line) emptyLines, first)
    else if first.column < width ∧ indent < first.column then none
    else
      let lines := BlockLines.read header.folded width first.rest.length
        { emptyLines, cursor := first }
      some (lines.chomp header.chomping width, lines.cursor)

end EventHub.Yaml
