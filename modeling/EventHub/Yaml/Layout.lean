import EventHub.Yaml.Token
import EventHub.Yaml.Cursor

/-!
The layout of a YAML text, token by token. Indentation opens and closes block collections, and a
scalar or collection becomes a key only when a colon follows: its start is remembered as a
candidate, where a key, and the mapping it opens, are put in later.
-/

namespace EventHub.Yaml

structure KeyCandidate where
  mark : Mark
  place : Nat
  required : Bool

structure Level where
  outer : Int
  isBlock : Bool

structure Layout where
  cursor : Cursor
  tokens : Array Token := #[]
  indent : Int := -1
  levels : List Level := []
  keyAllowed : Bool := true
  candidate : Option KeyCandidate := none
  /-- The candidates outside of the brackets around the cursor, one for each pair. -/
  outerCandidates : List (Option KeyCandidate) := []
  /-- Where a colon ends a key although no blank follows. -/
  adjacentValue : Mark := {}
  /-- Entries of the form of pairs belong to a mapping in braces. -/
  inMapping : Bool := false
  /-- A pair among the items of a flow sequence has opened a mapping. -/
  inPair : Bool := false
  /-- The last token is a tag or an anchor at the start of a line. -/
  afterLooseProperty : Bool := false

namespace Layout

def inFlow (layout : Layout) : Bool :=
  !layout.outerCandidates.isEmpty

def atBlock (layout : Layout) : Bool :=
  layout.levels.head?.any Level.isBlock

def push (token : Token) (layout : Layout) : Layout :=
  { layout with tokens := layout.tokens.push token, afterLooseProperty := false }

def insert (place : Nat) (token : Token) (layout : Layout) : Layout :=
  { layout with tokens := layout.tokens.insertIdxIfInBounds place token }

def moveTo (cursor : Cursor) (layout : Layout) : Layout :=
  { layout with cursor }

def allowKey (layout : Layout) : Layout :=
  { layout with keyAllowed := true }

def forbidKey (layout : Layout) : Layout :=
  { layout with keyAllowed := false }

/-! Levels of indentation. Inside brackets there are none to open or close. -/

def closeLevels (column : Int) : List Level → Layout → Layout
  | [], layout => { layout with levels := [] }
  | level :: outer, layout =>
      if column < layout.indent then
        let layout := if level.isBlock then layout.push .blockEnd else layout
        closeLevels column outer { layout with indent := level.outer, levels := outer }
      else { layout with levels := level :: outer }

def unrollTo (column : Int) (layout : Layout) : Layout :=
  if layout.inFlow then layout else layout.closeLevels column layout.levels

/-- Drops the innermost level if it belongs to no block; two such levels never meet. -/
def dropSpare (layout : Layout) : Layout :=
  match layout.levels with
  | level :: outer =>
      if level.isBlock then layout else { layout with indent := level.outer, levels := outer }
  | [] => layout

/-- Opens a block at a column, unless one is open there; its token goes to a place. -/
def rollTo (column place : Nat) (token : Token) (layout : Layout) : Layout :=
  if layout.inFlow then layout
  else
    let layout := if layout.indent ≤ column then layout.dropSpare else layout
    if layout.indent < column then
      { layout.insert place token with
        indent := column
        levels := { outer := layout.indent, isBlock := true } :: layout.levels }
    else layout

/-- What follows has to stand further right than the block it is in. -/
def rollSpare (layout : Layout) : Layout :=
  if !layout.inFlow && layout.atBlock then
    { layout with
      indent := layout.indent + 1
      levels := { outer := layout.indent, isBlock := false } :: layout.levels }
  else layout

/-! Candidates for keys. -/

def saveKey (layout : Layout) : Layout :=
  if layout.keyAllowed then
    let column := layout.cursor.column
    let required := !layout.inFlow && layout.indent == column && layout.atBlock
    { layout with
      candidate := some { mark := layout.cursor.toMark, place := layout.tokens.size, required } }
  else layout

def dropKey? (layout : Layout) : Option Layout :=
  if layout.candidate.any KeyCandidate.required then none
  else some { layout with candidate := none }

/-- Outside of brackets a key ends on its line and has at most this many characters. -/
def maxKeyLength : Nat := 1024

def dropStaleKey? (layout : Layout) : Option Layout :=
  match layout.candidate with
  | none => some layout
  | some key =>
      let here := layout.cursor.toMark
      if !layout.inFlow && (key.mark.line < here.line ||
          key.mark.column + maxKeyLength < here.column) then layout.dropKey?
      else some layout

/-- Skips to the next token; on a new line a key may follow. -/
def skipGap? (layout : Layout) : Option Layout :=
  (layout.cursor.skipGap? layout.indent).map fun cursor =>
    let layout := if layout.cursor.line < cursor.line && !layout.inFlow then layout.allowKey
      else layout
    layout.moveTo cursor

def skipBlanks? (layout : Layout) : Option (List Char × Layout) :=
  layout.cursor.skipBlanks?.map fun (blanks, cursor) => (blanks, layout.moveTo cursor)

def closePair (layout : Layout) : Layout :=
  if layout.inPair then { layout.push .flowMappingEnd with inPair := false, inMapping := false }
  else layout

end Layout

end EventHub.Yaml
