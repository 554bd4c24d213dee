import EventHub.Yaml.Layout
import EventHub.Yaml.Literal
import EventHub.Yaml.Tag

/-!
Reading the tokens of a YAML text. What starts at a place is decided by the character there and
the one behind it; each token updates the layout.
-/

namespace EventHub.Yaml

namespace Layout

/-! Flow collections. -/

/-- Brackets nest this deep at most. -/
def maxFlowDepth : Nat := 255

def openFlow? (token : Token) (layout : Layout) : Option Layout :=
  let layout := layout.saveKey.rollSpare
  if maxFlowDepth ≤ layout.outerCandidates.length then none
  else
    let layout :=
      { layout with
        candidate := none
        outerCandidates := layout.candidate :: layout.outerCandidates
        keyAllowed := true
        inMapping := layout.inMapping || token == Token.flowMapping }
    (layout.moveTo layout.cursor.next).skipBlanks?.map fun (_, layout) => layout.push token

/-- Inside other brackets a closed collection can be a key, whose colon needs no blank. -/
def closeFlow? (token : Token) (layout : Layout) : Option Layout := do
  let layout ← layout.dropKey?
  let layout :=
    { layout with
      candidate := layout.outerCandidates.head?.join
      outerCandidates := layout.outerCandidates.tail
      keyAllowed := false }
  let layout := layout.closePair
  let (_, layout) ← (layout.moveTo layout.cursor.next).skipBlanks?
  let layout :=
    if layout.inFlow then { layout with adjacentValue := layout.cursor.toMark } else layout
  some (layout.push token)

def separator? (layout : Layout) : Option Layout := do
  let layout ← layout.dropKey?
  let layout := layout.allowKey.closePair
  let (_, layout) ← (layout.moveTo layout.cursor.next).skipBlanks?
  some (layout.push .separator)

/-! Entries of block collections, keys and values. -/

def atItem (cursor : Cursor) : Bool :=
  cursor.rest.head? == some '-' && endsWord cursor.rest.tail

/-- An item that goes on below its dash, or with a bracket, has to stand to the right of it. -/
def item? (layout : Layout) : Option Layout := do
  let column := layout.cursor.column
  if layout.inFlow || !layout.keyAllowed ||
      (layout.afterLooseProperty && column == 0 && -1 < layout.indent) then none
  else
    let layout := layout.rollTo column layout.tokens.size .blockSequence
    let (blanks, layout) ← (layout.moveTo layout.cursor.next).skipBlanks?
    if blanks.contains '\t' && atItem layout.cursor then none
    else
      let goesOn := layout.cursor.rest.head?.any fun char => char == '\n' || isFlowIndicator char
      let layout ← (if goesOn then layout.rollSpare else layout).dropKey?
      some (layout.allowKey.push .item)

/-- Skips blanks, line breaks and comments, but no tab. -/
def skipUntabbed? : Nat → Cursor → Option Cursor
  | 0, cursor => some cursor
  | fuel + 1, cursor =>
      match cursor.rest with
      | '\t' :: _ => none
      | ' ' :: _ | '\n' :: _ => skipUntabbed? fuel cursor.next
      | '#' :: _ => skipUntabbed? fuel cursor.lineEnd
      | _ => some cursor

def explicitKey? (layout : Layout) : Option Layout := do
  let layout ←
    if layout.inFlow then some { layout with inMapping := true }
    else if layout.keyAllowed then
      some (layout.rollTo layout.cursor.column layout.tokens.size .blockMapping)
    else none
  let layout ← layout.dropKey?
  let start := layout.cursor.next
  if start.atEnd then none
  else
    let cursor ← skipUntabbed? start.rest.length start
    some ({ layout with cursor, keyAllowed := !layout.inFlow }.push .key)

/-- The place behind a colon; a tab alone does not part it from a word. -/
def afterColon? (cursor : Cursor) : Option Cursor :=
  if cursor.rest.head? = some '\t' then
    cursor.skipBlanks?.bind fun (blanks, after) =>
      if !blanks.contains ' ' && after.rest.head?.any isWordChar then none else some after
  else some cursor

/-- Turns a candidate into a key. A pair among the items of a flow sequence stays on one line. -/
def keyed? (key : KeyCandidate) (line : Nat) (layout : Layout) : Option Layout :=
  let layout := layout.insert key.place .key
  if layout.inPair && key.mark.line < line then none
  else
    let layout := if layout.inPair then layout.insert key.place .flowMapping else layout
    let layout := (layout.rollTo key.mark.column key.place .blockMapping).rollSpare
    some { layout with candidate := none, keyAllowed := false }

/-- A value whose key is empty, or stands behind a question mark. -/
def unkeyed? (column : Nat) (layout : Layout) : Option Layout :=
  if layout.inFlow then
    some (if layout.inPair then layout.push .flowMapping else layout).forbidKey
  else if layout.keyAllowed then
    some (layout.rollTo column layout.tokens.size .blockMapping).rollSpare.allowKey
  else none

def value? (layout : Layout) : Option Layout := do
  let start := layout.cursor
  let cursor ← afterColon? start.next
  let layout := { layout with cursor, inPair := layout.inFlow && !layout.inMapping }
  let layout ←
    match layout.candidate with
    | some key => layout.keyed? key start.line
    | none => layout.unkeyed? start.column
  some (layout.push .value)

/-! Properties of nodes. -/

def isAnchorChar (char : Char) : Bool :=
  !isSpace char && char != '\n' && !isFlowIndicator char && char != '\ufeff'

def loose (column : Nat) (layout : Layout) : Layout :=
  { layout with afterLooseProperty := column == 0 }

def name? (token : String → Token) (layout : Layout) : Option Layout :=
  let (name, cursor) := layout.cursor.next.span isAnchorChar
  if name.isEmpty then none
  else some ((layout.saveKey.forbidKey.moveTo cursor).push (token (String.ofList name)))

def anchor? (layout : Layout) : Option Layout :=
  (layout.name? .anchor).map (loose layout.cursor.column)

def nodeTag? (layout : Layout) : Option Layout :=
  (tag? layout.inFlow layout.cursor).map fun (token, cursor) =>
    ((layout.saveKey.forbidKey.moveTo cursor).push token).loose layout.cursor.column

/-! Scalars. -/

def pushScalar (isPlain : Bool) (text : List Char) (layout : Layout) : Layout :=
  layout.push (.scalar isPlain (String.ofList text))

def blockScalar? (layout : Layout) : Option Layout :=
  let layout := layout.saveKey.allowKey.dropSpare
  (blockText? layout.indent layout.cursor).map fun (text, cursor) =>
    (layout.moveTo cursor).pushScalar false text

/-- What may follow a quoted scalar. Outside of brackets a key ends on the line it starts on. -/
def followsQuoted (inFlow onOneLine : Bool) : List Char → Bool
  | [] => true
  | char :: _ =>
      char == '\n' || (char == ':' && (inFlow || onOneLine)) ||
        (inFlow && (char == ',' || char == ']' || char == '\x7d'))

def quotedScalar? (layout : Layout) : Option Layout := do
  let start := layout.cursor
  let layout := layout.saveKey.forbidKey
  let (text, cursor) ← quotedText? layout.indent start
  let (_, layout) ← (layout.moveTo cursor).skipBlanks?
  if followsQuoted layout.inFlow (start.line == layout.cursor.line) layout.cursor.rest then
    let layout ← layout.skipGap?
    some ({ layout with adjacentValue := layout.cursor.toMark }.pushScalar false text)
  else none

/-- A plain scalar stands to the right of the block around it. -/
def plainScalar? (layout : Layout) : Option Layout :=
  let layout := layout.saveKey.forbidKey.dropSpare
  let limit := layout.indent + 1
  if layout.inFlow && layout.cursor.column < limit then none
  else
    (plainText? layout.inFlow limit layout.cursor).map fun (text, cursor) =>
      let layout := if cursor.fresh then layout.allowKey else layout
      (layout.moveTo cursor).pushScalar true text

/-! Documents. -/

/-- Ends all block collections before something that stands outside of documents. -/
def leaveDocument? (layout : Layout) : Option Layout :=
  ((layout.unrollTo (-1)).dropKey?).map forbidKey

def directiveLine? (layout : Layout) : Option Layout := do
  let layout ← layout.leaveDocument?
  let (token, cursor) ← directive? layout.cursor
  some ((layout.moveTo cursor).push token)

def documentStart? (layout : Layout) : Option Layout :=
  layout.leaveDocument?.map fun layout =>
    (layout.moveTo (layout.cursor.advance 3)).push .documentStart

def documentEnd? (layout : Layout) : Option Layout := do
  let layout ← layout.leaveDocument?
  let cursor ← (layout.cursor.advance 3).toLineEnd?
  some ((layout.moveTo cursor).push .documentEnd)

/-! The next token. -/

/-- A colon at the cursor parts a key from its value. -/
def atValue (layout : Layout) : Bool :=
  let after := layout.cursor.rest.tail
  endsWord after || (layout.inFlow &&
    (after.head?.any isFlowIndicator || layout.cursor.toMark == layout.adjacentValue))

def content? (layout : Layout) : Option Layout :=
  match layout.cursor.rest with
  | [] => none
  | char :: after =>
      match char with
      | '[' => layout.openFlow? .flowSequence
      | '\x7b' => layout.openFlow? .flowMapping
      | ']' => layout.closeFlow? .flowSequenceEnd
      | '\x7d' => layout.closeFlow? .flowMappingEnd
      | ',' => layout.separator?
      | '-' => if endsWord after then layout.item? else layout.plainScalar?
      | '?' => if endsWord after then layout.explicitKey? else layout.plainScalar?
      | ':' => if layout.atValue then layout.value? else layout.plainScalar?
      | '*' => layout.name? .reference
      | '&' => layout.anchor?
      | '!' => layout.nodeTag?
      | '|' | '>' => if layout.inFlow then layout.plainScalar? else layout.blockScalar?
      | '\'' | '"' => layout.quotedScalar?
      | '%' | '@' | '\x60' => none
      | _ => layout.plainScalar?

/-- The next token of a document, or a mark or directive at the start of a line. -/
def token? (layout : Layout) : Option Layout :=
  let cursor := layout.cursor
  if cursor.column = 0 ∧ cursor.rest.head? = some '%' then layout.directiveLine?
  else if cursor.atMarkOf '-' then layout.documentStart?
  else if cursor.atMarkOf '.' then layout.documentEnd?
  else if cursor.column < layout.indent then none
  else layout.content?

def tokens? : Nat → Layout → Option (List Token)
  | 0, _ => none
  | fuel + 1, layout => do
      let layout ← layout.skipGap?
      let layout ← layout.dropStaleKey?
      let layout := layout.unrollTo layout.cursor.column
      if layout.cursor.atEnd then
        let layout ← layout.leaveDocument?
        some layout.tokens.toList
      else (layout.token?).bind (tokens? fuel)

end Layout

def tokens? (text : String) : Option (List Token) :=
  let cursor := Cursor.start text
  Layout.tokens? (cursor.rest.length + 1) { cursor }

end EventHub.Yaml
