import EventHub.Yaml.Lexer
import EventHub.Yaml.Node

/-!
Reading the content of a YAML document from its tokens. A mapping may not repeat a key. Content
that has no value, such as a word that its tag does not admit, is null; as a key it is left out.
-/

namespace EventHub.Yaml

/-- The handle of the tags that every document knows. -/
def coreTags : String := "tag:yaml.org,2002:"

def taggedScalar? (suffix text : String) : Option Scalar :=
  match suffix with
  | "bool" =>
      if text = "true" then some (.bool true)
      else if text = "false" then some (.bool false)
      else none
  | "int" => ((Text.integer? text.toList).filter Text.fitsWord).map .integer
  | "float" => if Scalar.isReal text then some (.real text) else none
  | "null" => if text = "~" ∨ text = "null" then some .null else none
  | _ => some (.text text)

structure Properties where
  anchor : Option Nat := none
  /-- A tag, as what its handle stands for and the rest of its name. -/
  tag : Option (String × String) := none

namespace Properties

def isEmpty (properties : Properties) : Bool :=
  properties.anchor.isNone && properties.tag.isNone

def scalar? (properties : Properties) (isPlain : Bool) (text : String) : Option Yaml :=
  match isPlain, properties.tag with
  | false, _ => some (scalar (.text text))
  | true, none => some (scalar (.ofPlain text))
  | true, some (handle, suffix) =>
      if handle = coreTags then (taggedScalar? suffix text).map scalar
      else some (scalar (.text text))

end Properties

/-- The members of a mapping, latest first, and a key whose value is to come. -/
structure Members where
  members : List (Scalar × Yaml) := []
  key : Option Yaml := none

namespace Members

def add? (content : Option Yaml) (pairs : Members) : Option Members :=
  match pairs.key with
  | none => some { pairs with key := content }
  | some key =>
      key.key?.bind fun name =>
        if pairs.members.any fun member => member.1 == name then none
        else some { members := (name, content.getD null) :: pairs.members }

def table (pairs : Members) : Yaml :=
  .table pairs.members.reverse

end Members

/-- A place among tokens, with what the document has declared before it. -/
structure Reading where
  tokens : List Token
  handles : List (String × String) := []
  /-- Anchors by name, latest first, and their numbers. -/
  anchors : List (String × Nat) := []
  contents : List (Nat × Yaml) := []

namespace Reading

def moveTo (tokens : List Token) (reading : Reading) : Reading :=
  { reading with tokens }

/-- What a handle stands for. A handle between exclamation marks must have been declared. -/
def expansion? (handle : String) (reading : Reading) : Option String :=
  match reading.handles.lookup handle with
  | some expansion => some expansion
  | none =>
      if handle = "!!" then some coreTags
      else if isClosedHandle handle.toList then none
      else some handle

def addAnchor (name : String) (reading : Reading) : Nat × Reading :=
  let number := reading.anchors.length
  (number, { reading with anchors := (name, number) :: reading.anchors })

def properties? (reading : Reading) : Option (Properties × Reading) :=
  match reading.tokens with
  | .anchor name :: .tag handle suffix :: rest =>
      let (number, reading) := reading.addAnchor name
      (reading.expansion? handle).map fun expansion =>
        ({ anchor := some number, tag := some (expansion, suffix) }, reading.moveTo rest)
  | .tag handle suffix :: .anchor name :: rest =>
      let (number, reading) := reading.addAnchor name
      (reading.expansion? handle).map fun expansion =>
        ({ anchor := some number, tag := some (expansion, suffix) }, reading.moveTo rest)
  | .anchor name :: rest =>
      let (number, reading) := reading.addAnchor name
      some ({ anchor := some number }, reading.moveTo rest)
  | .tag handle suffix :: rest =>
      (reading.expansion? handle).map fun expansion =>
        ({ tag := some (expansion, suffix) }, reading.moveTo rest)
  | _ => some ({}, reading)

def keep (properties : Properties) (content : Option Yaml) (reading : Reading) : Reading :=
  match properties.anchor, content with
  | some number, some content =>
      { reading with contents := (number, content) :: reading.contents }
  | _, _ => reading

def referred? (name : String) (reading : Reading) : Option (Option Yaml) :=
  (reading.anchors.lookup name).map fun number => reading.contents.lookup number

end Reading

/-! Nodes. Each reader gives the content at a place and the place behind it. -/

mutual

/-- A node. A block collection stands only `inBlock`; a sequence without indentation only as a
key or value of a block mapping. -/
def node? : Nat → Bool → Bool → Reading → Option (Option Yaml × Reading)
  | 0, _, _, _ => none
  | fuel + 1, inBlock, unindented, reading =>
      match reading.tokens with
      | .reference name :: rest =>
          (reading.referred? name).map fun content => (content, reading.moveTo rest)
      | _ => do
          let (properties, start) ← reading.properties?
          let (content, last) ← content? fuel properties inBlock unindented start
          some (content, last.keep properties content)

def content? :
    Nat → Properties → Bool → Bool → Reading → Option (Option Yaml × Reading)
  | 0, _, _, _, _ => none
  | fuel + 1, properties, inBlock, unindented, reading =>
      match reading.tokens with
      | .scalar isPlain text :: rest =>
          some (properties.scalar? isPlain text, reading.moveTo rest)
      | .flowSequence :: rest => flowItems? fuel true [] (reading.moveTo rest)
      | .flowMapping :: rest => flowMembers? fuel true {} (reading.moveTo rest)
      | token :: rest =>
          if token = .item ∧ unindented then unindentedItems? fuel [] reading
          else if token = .blockSequence ∧ inBlock then blockItems? fuel [] (reading.moveTo rest)
          else if token = .blockMapping ∧ inBlock then blockMembers? fuel {} (reading.moveTo rest)
          else if properties.isEmpty then none
          else some (properties.scalar? true "", reading)
      | [] => if properties.isEmpty then none else some (properties.scalar? true "", reading)

/-- A node, or null where the next token is one of those that `ends` holds of. -/
def nodeUnless? :
    Nat → (Token → Bool) → Bool → Bool → Reading → Option (Option Yaml × Reading)
  | 0, _, _, _, _ => none
  | fuel + 1, ends, inBlock, unindented, reading =>
      if reading.tokens.head?.any ends then some (some null, reading)
      else node? fuel inBlock unindented reading

def blockItems? : Nat → List Yaml → Reading → Option (Option Yaml × Reading)
  | 0, _, _ => none
  | fuel + 1, done, reading =>
      match reading.tokens with
      | .blockEnd :: rest => some (some (list done.reverse), reading.moveTo rest)
      | .item :: rest => do
          let ends (token : Token) : Bool := [Token.item, .blockEnd].contains token
          let (item, next) ← nodeUnless? fuel ends true false (reading.moveTo rest)
          blockItems? fuel (item.getD null :: done) next
      | _ => none

def unindentedItems? : Nat → List Yaml → Reading → Option (Option Yaml × Reading)
  | 0, _, _ => none
  | fuel + 1, done, reading =>
      match reading.tokens with
      | .item :: rest => do
          let ends (token : Token) : Bool := [Token.item, .key, .value, .blockEnd].contains token
          let (item, next) ← nodeUnless? fuel ends true false (reading.moveTo rest)
          unindentedItems? fuel (item.getD null :: done) next
      | _ => some (some (list done.reverse), reading)

/-- A key or a value of a block mapping behind its mark; null without one. -/
def blockPart? : Nat → Token → Reading → Option (Option Yaml × Reading)
  | 0, _, _ => none
  | fuel + 1, mark, reading =>
      if reading.tokens.head? = some mark then
        let ends (token : Token) : Bool := [Token.key, .value, .blockEnd].contains token
        nodeUnless? fuel ends true true (reading.moveTo reading.tokens.tail)
      else some (some null, reading)

def blockMembers? : Nat → Members → Reading → Option (Option Yaml × Reading)
  | 0, _, _ => none
  | fuel + 1, done, reading =>
      match reading.tokens with
      | .blockEnd :: rest => some (some done.table, reading.moveTo rest)
      | .key :: _ | .value :: _ => do
          let (key, next) ← blockPart? fuel .key reading
          let (value, next) ← blockPart? fuel .value next
          let done ← done.add? key
          let done ← done.add? value
          blockMembers? fuel done next
      | _ => none

/-- The value of an entry in brackets; null without a mark. -/
def flowValue? : Nat → Token → Reading → Option (Option Yaml × Reading)
  | 0, _, _ => none
  | fuel + 1, close, reading =>
      match reading.tokens with
      | .value :: rest =>
          let ends (token : Token) : Bool := [Token.separator, close].contains token
          nodeUnless? fuel ends false false (reading.moveTo rest)
      | _ => some (some null, reading)

/-- The items of a flow sequence; all but the first follow a comma. -/
def flowItems? : Nat → Bool → List Yaml → Reading → Option (Option Yaml × Reading)
  | 0, _, _, _ => none
  | fuel + 1, isFirst, done, reading =>
      let tokens :=
        match reading.tokens with
        | .separator :: rest => if isFirst then none else some rest
        | .flowSequenceEnd :: _ => some reading.tokens
        | _ => if isFirst then some reading.tokens else none
      match tokens with
      | none => none
      | some (.flowSequenceEnd :: rest) =>
          some (some (list done.reverse), reading.moveTo rest)
      | some (.key :: rest) => do
          let (pair, next) ← flowPair? fuel (reading.moveTo rest)
          flowItems? fuel false (pair.getD null :: done) next
      | some rest => do
          let (item, next) ← node? fuel false false (reading.moveTo rest)
          flowItems? fuel false (item.getD null :: done) next

/-- A pair among the items of a flow sequence, behind the mark of its key. The token that follows
an empty key is left out. -/
def flowPair? : Nat → Reading → Option (Option Yaml × Reading)
  | 0, _ => none
  | fuel + 1, reading => do
      let ends (token : Token) : Bool := [Token.value, .separator, .flowSequenceEnd].contains token
      let (key, next) ←
        if reading.tokens.head?.any ends then
          some (some null, reading.moveTo reading.tokens.tail)
        else node? fuel false false reading
      let (value, last) ← flowValue? fuel .flowSequenceEnd next
      let pair ← Members.add? key {}
      let pair ← pair.add? value
      some (some pair.table, last)

/-- The members of a flow mapping; all but the first follow a comma. -/
def flowMembers? : Nat → Bool → Members → Reading → Option (Option Yaml × Reading)
  | 0, _, _, _ => none
  | fuel + 1, isFirst, done, reading =>
      let tokens :=
        match reading.tokens with
        | .separator :: rest => if isFirst then none else some rest
        | .flowMappingEnd :: _ => some reading.tokens
        | _ => if isFirst then some reading.tokens else none
      match tokens with
      | none => none
      | some (.flowMappingEnd :: rest) => some (some done.table, reading.moveTo rest)
      | some (.value :: rest) => do
          let (value, next) ← flowValue? fuel .flowMappingEnd (reading.moveTo (.value :: rest))
          let done ← done.add? (some null)
          let done ← done.add? value
          flowMembers? fuel false done next
      | some (.key :: rest) => do
          let ends (token : Token) : Bool :=
            [Token.value, .separator, .flowMappingEnd].contains token
          let (key, next) ← nodeUnless? fuel ends false false (reading.moveTo rest)
          let (value, next) ← flowValue? fuel .flowMappingEnd next
          let done ← done.add? key
          let done ← done.add? value
          flowMembers? fuel false done next
      | some rest => do
          let (key, next) ← node? fuel false false (reading.moveTo rest)
          let done ← done.add? key
          let done ← done.add? (some null)
          flowMembers? fuel false done next

end

/-! Documents. -/

/-- The directives before a document. Only the last one counts, and there is one version. -/
def directives? : Bool → List (String × String) → List Token →
    Option (List (String × String) × List Token)
  | versioned, handles, token :: rest =>
      match token with
      | .versionDirective => if versioned then none else directives? true [] rest
      | .tagDirective handle expansion => directives? versioned [(handle, expansion)] rest
      | _ => some (handles, token :: rest)
  | _, handles, [] => some (handles, [])

def Token.leavesDocument : Token → Bool
  | .versionDirective | .tagDirective _ _ | .documentStart | .documentEnd => true
  | _ => false

/-- The content of the first document among tokens, and the tokens behind it. -/
def root? (tokens : List Token) : Option (Option Yaml × List Token) :=
  let content (handles : List (String × String)) (tokens : List Token) :=
    (node? (4 * tokens.length + 4) true false { tokens, handles }).map fun (content, last) =>
      (content, last.tokens)
  if tokens.head?.any Token.leavesDocument then
    (directives? false [] tokens).bind fun (handles, rest) =>
      match rest with
      | .documentStart :: rest =>
          if rest.head?.all Token.leavesDocument then some (some null, rest)
          else content handles rest
      | _ => none
  else content [] tokens

/-- The content of the one document in a text. A text without one is an empty mapping. -/
def document? (text : String) : Option Yaml := do
  let isEnd (token : Token) : Bool := token == .documentEnd
  let tokens := (← tokens? text).dropWhile isEnd
  if tokens.isEmpty then some (table [])
  else
    let (content, rest) ← root? tokens
    if (rest.dropWhile isEnd).isEmpty then some (content.getD null) else none

end EventHub.Yaml
