import SchemaNodes.Yaml.TokenStream

/-!
# From YAML tokens to events

The grammar of YAML over the tokens of a text: documents begin and end, collections begin and end,
and between them stand scalars and aliases. Each step looks at the tokens in front, according to
what is expected there, and yields one event with its mark. Nodes that are left out are empty plain
scalars.

`eventsOf` gives the events of a text up to its end or to the first place that is not acceptable.
-/

namespace SchemaNodes.Yaml

/-- What may stand in front of a node. -/
structure Properties (α : Type) where
  anchor? : Option α
  tag? : Option String
  deriving DecidableEq, Repr, Inhabited

/-- A piece of the structure of a text, in which anchors are given in some form. -/
inductive Event (α : Type) where
  | documentStart
  | documentEnd
  | streamEnd
  | reference (anchor : α)
  | scalar (properties : Properties α) (text : String) (style : ScalarStyle)
  | sequenceStart (properties : Properties α)
  | sequenceEnd
  | mappingStart (properties : Properties α)
  | mappingEnd
  deriving DecidableEq, Repr, Inhabited

/-- What is expected next. -/
inductive Expected where
  | implicitDocumentStart
  | documentStart
  | documentContent
  | documentEnd
  | blockNode
  | blockSequenceEntry (first : Bool)
  | indentlessSequenceEntry
  | blockMappingKey (first : Bool)
  | blockMappingValue
  | flowSequenceEntry (first : Bool)
  | flowPairKey
  | flowPairValue
  | flowPairEnd
  | flowMappingKey (first : Bool)
  | flowMappingValue
  | flowMappingEmptyValue
  deriving DecidableEq, Repr, Inhabited

/-- The tokens that are left, what is expected of them, and what will be expected behind the nodes
that are open. -/
structure Grammar where
  tokens : List Token
  expected : Expected
  stack : List Expected
  /-- What the handles of tags stand for. -/
  handles : List (String × String)
  deriving Inhabited

namespace Grammar

/-- An event with its mark, and what is left. -/
abbrev Step := Option (Event String × Mark × Grammar)

/-- The next token. -/
def peek (g : Grammar) : Option Token := g.tokens.head?

/-- Passes over the next token. -/
def skip (g : Grammar) : Grammar := { g with tokens := g.tokens.drop 1 }

/-- Goes on with what is expected behind the node that ends. -/
def pop (g : Grammar) : Grammar :=
  { g with expected := g.stack.headD .documentEnd, stack := g.stack.drop 1 }

/-- Expects something. -/
def expect (g : Grammar) (expected : Expected) : Grammar := { g with expected }

/-- Expects something behind the node that begins. -/
def push (g : Grammar) (behind : Expected) : Grammar := { g with stack := behind :: g.stack }

/-- An event before what is left. -/
def yield (g : Grammar) (event : Event String) (mark : Mark) : Step := some (event, mark, g)

/-- No properties. -/
def bare : Properties String := ⟨none, none⟩

/-- A node that is left out. -/
def empty (g : Grammar) (mark : Mark) : Step := g.yield (.scalar bare "" .plain) mark

/-- The tag that a handle and a suffix stand for; the handle must be known. -/
def resolveTag (g : Grammar) (handle suffix : String) : Option String :=
  if handle = "" then some suffix
  else (g.handles.lookup handle).map (· ++ suffix)

/-- Reads an anchor, if there is one. -/
def readAnchor (g : Grammar) : Option (Option String × Grammar) :=
  g.peek.map fun token => match token.kind with
    | .anchor name => (some name, g.skip)
    | _ => (none, g)

/-- Reads a tag, if there is one, as its handle and suffix. -/
def readTag (g : Grammar) : Option (Option (String × String) × Grammar) :=
  g.peek.map fun token => match token.kind with
    | .tag handle suffix => (some (handle, suffix), g.skip)
    | _ => (none, g)

/-- Reads an anchor and a tag in either order. -/
def readProperties (g : Grammar) : Option (Properties String × Grammar) := do
  let (anchor?, g) ← g.readAnchor
  let (tag?, g) ← g.readTag
  let (anchor?, g) ← if anchor?.isNone then g.readAnchor else some (anchor?, g)
  match tag? with
  | none => return (⟨anchor?, none⟩, g)
  | some (handle, suffix) => return (⟨anchor?, some (← g.resolveTag handle suffix)⟩, g)

/-- The event of a node of which there is nothing but its properties. -/
def absent (g : Grammar) (properties : Properties String) (start : Mark) : Step :=
  if properties = bare then none else g.pop.yield (.scalar properties "" .plain) start

/-- The event at which a node with properties begins that is no alias. -/
def content (g : Grammar) (block indentless : Bool) (properties : Properties String)
    (start : Mark) : Step := do
  let token ← g.peek
  match token.kind with
  | .scalar text style => g.skip.pop.yield (.scalar properties text style) start
  | .flowSequenceStart =>
    (g.expect (.flowSequenceEntry true)).yield (.sequenceStart properties) start
  | .flowMappingStart =>
    (g.expect (.flowMappingKey true)).yield (.mappingStart properties) start
  | .blockEntry =>
    if indentless then
      (g.expect .indentlessSequenceEntry).yield (.sequenceStart properties) start
    else g.absent properties start
  | .blockSequenceStart =>
    if block then (g.expect (.blockSequenceEntry true)).yield (.sequenceStart properties) start
    else g.absent properties start
  | .blockMappingStart =>
    if block then (g.expect (.blockMappingKey true)).yield (.mappingStart properties) start
    else g.absent properties start
  | _ => g.absent properties start

/-- The event at which a node begins. -/
def node (g : Grammar) (block indentless : Bool) : Step := do
  let token ← g.peek
  match token.kind with
  | .reference name => g.skip.pop.yield (.reference name) token.start
  | _ =>
    let (properties, behind) ← g.readProperties
    behind.content block indentless properties token.start

/-- Reads the directives of a document. -/
def directives (seenVersion : Bool) : List Token → List (String × String) →
    Option (List Token × List (String × String))
  | [], _ => none
  | token :: rest, handles => match token.kind with
    | .versionDirective major minor =>
      if seenVersion || major ≠ 1 || (minor ≠ 1 && minor ≠ 2) then none
      else directives true rest handles
    | .tagDirective handle start =>
      if (handles.lookup handle).isSome then none
      else directives seenVersion rest ((handle, start) :: handles)
    | _ => some (token :: rest, handles)

/-- What the handles stand for that are always known, unless a directive says otherwise. -/
def knownHandles : List (String × String) := [("!", "!"), ("!!", "tag:yaml.org,2002:")]

/-- Passes over marks of the end of a document. -/
def skipDocumentEnds : List Token → List Token
  | [] => []
  | token :: rest => if token.kind = .documentEnd then skipDocumentEnds rest else token :: rest

/-- Whether a token stands outside of documents. -/
def isOutside : TokenKind → Bool
  | .versionDirective .. | .tagDirective .. | .documentStart | .documentEnd | .streamEnd => true
  | _ => false

/-- The beginning of a document, or the end of the text. -/
def documentStart (g : Grammar) (implicit : Bool) : Step := do
  let g := if implicit then g else { g with tokens := skipDocumentEnds g.tokens }
  let token ← g.peek
  if token.kind = .streamEnd then g.skip.yield .streamEnd token.start
  else if implicit && (!isOutside token.kind || token.kind = .documentEnd) then
    let g := ⟨g.tokens, .blockNode, [.documentEnd], knownHandles⟩
    yield g .documentStart token.start
  else
    let (tokens, handles) ← directives false g.tokens []
    match tokens with
    | ⟨.documentStart, _, _⟩ :: rest =>
      let g := ⟨rest, .documentContent, [.documentEnd], handles ++ knownHandles⟩
      yield g .documentStart token.start
    | _ => none

/-- An entry of a block sequence, or its end. -/
def blockSequenceEntry (g : Grammar) (first : Bool) : Step := do
  let g := if first then g.skip else g
  let token ← g.peek
  match token.kind with
  | .blockEntry =>
    let next ← g.skip.peek
    if next.kind = .blockEntry || next.kind = .blockEnd then
      (g.skip.expect (.blockSequenceEntry false)).empty token.stop
    else (g.skip.push (.blockSequenceEntry false)).node true false
  | .blockEnd => g.skip.pop.yield .sequenceEnd token.start
  | _ => none

/-- An entry of a sequence that stands no deeper than the mapping around it, or its end. -/
def indentlessSequenceEntry (g : Grammar) : Step := do
  let token ← g.peek
  if token.kind = .blockEntry then
    let next ← g.skip.peek
    if next.kind = .blockEntry || next.kind = .key || next.kind = .value ||
        next.kind = .blockEnd then
      (g.skip.expect .indentlessSequenceEntry).empty token.stop
    else (g.skip.push .indentlessSequenceEntry).node true false
  else g.pop.yield .sequenceEnd token.start

/-- Whether a token shows that a node of a block mapping is left out. -/
def endsBlockPart (kind : TokenKind) : Bool :=
  kind = .key || kind = .value || kind = .blockEnd

/-- A key of a block mapping, or its end. -/
def blockMappingKey (g : Grammar) (first : Bool) : Step := do
  let g := if first then g.skip else g
  let token ← g.peek
  match token.kind with
  | .key =>
    let next ← g.skip.peek
    if endsBlockPart next.kind then (g.skip.expect .blockMappingValue).empty token.stop
    else (g.skip.push .blockMappingValue).node true true
  | .blockEnd => g.skip.pop.yield .mappingEnd token.start
  | _ => none

/-- A value of a block mapping. -/
def blockMappingValue (g : Grammar) : Step := do
  let token ← g.peek
  if token.kind = .value then
    let next ← g.skip.peek
    if endsBlockPart next.kind then (g.skip.expect (.blockMappingKey false)).empty token.stop
    else (g.skip.push (.blockMappingKey false)).node true true
  else (g.expect (.blockMappingKey false)).empty token.start

/-- Passes over the comma that has to stand before every entry but the first. -/
def skipComma (g : Grammar) (first : Bool) : Option Grammar :=
  if first then some g
  else g.peek.bind fun token => if token.kind = .flowEntry then some g.skip else none

/-- An entry of a flow sequence, or its end. -/
def flowSequenceEntry (g : Grammar) (first : Bool) : Step := do
  let g := if first then g.skip else g
  let token ← g.peek
  if token.kind = .flowSequenceEnd then g.skip.pop.yield .sequenceEnd token.start
  else
    let g ← g.skipComma first
    let token ← g.peek
    match token.kind with
    | .flowSequenceEnd => g.skip.pop.yield .sequenceEnd token.start
    | .key => (g.skip.expect .flowPairKey).yield (.mappingStart bare) token.start
    | _ => (g.push (.flowSequenceEntry false)).node false false

/-- The key of a pair that stands in a flow sequence. -/
def flowPairKey (g : Grammar) : Step := do
  let token ← g.peek
  if token.kind = .value || token.kind = .flowEntry || token.kind = .flowSequenceEnd then
    (g.skip.expect .flowPairValue).empty token.stop
  else (g.push .flowPairValue).node false false

/-- The value of a pair that stands in a flow sequence. -/
def flowPairValue (g : Grammar) : Step := do
  let token ← g.peek
  if token.kind = .value then
    let next ← g.skip.peek
    if next.kind = .flowEntry || next.kind = .flowSequenceEnd then
      (g.skip.expect .flowPairEnd).empty next.start
    else (g.skip.push .flowPairEnd).node false false
  else (g.expect .flowPairEnd).empty token.start

/-- The end of a pair that stands in a flow sequence. -/
def flowPairEnd (g : Grammar) : Step := do
  let token ← g.peek
  (g.expect (.flowSequenceEntry false)).yield .mappingEnd token.start

/-- A key of a flow mapping, or its end. -/
def flowMappingKey (g : Grammar) (first : Bool) : Step := do
  let g := if first then g.skip else g
  let token ← g.peek
  if token.kind = .flowMappingEnd then g.skip.pop.yield .mappingEnd token.start
  else
    let g ← g.skipComma first
    let token ← g.peek
    match token.kind with
    | .flowMappingEnd => g.skip.pop.yield .mappingEnd token.start
    | .key =>
      let next ← g.skip.peek
      if next.kind = .value || next.kind = .flowEntry || next.kind = .flowMappingEnd then
        (g.skip.expect .flowMappingValue).empty next.start
      else (g.skip.push .flowMappingValue).node false false
    | _ => (g.push .flowMappingEmptyValue).node false false

/-- A value of a flow mapping. -/
def flowMappingValue (g : Grammar) : Step := do
  let token ← g.peek
  if token.kind = .value then
    let next ← g.skip.peek
    if next.kind = .flowEntry || next.kind = .flowMappingEnd then
      (g.skip.expect (.flowMappingKey false)).empty next.start
    else (g.skip.push (.flowMappingKey false)).node false false
  else (g.expect (.flowMappingKey false)).empty token.start

/-- The next event. -/
def step (g : Grammar) : Step :=
  match g.expected with
  | .implicitDocumentStart => g.documentStart true
  | .documentStart => g.documentStart false
  | .documentContent => do
    let token ← g.peek
    if isOutside token.kind then g.pop.empty token.start else g.node true false
  | .documentEnd => do
    let token ← g.peek
    let g := if token.kind = .documentEnd then g.skip else g
    (g.expect .documentStart).yield .documentEnd token.start
  | .blockNode => g.node true false
  | .blockSequenceEntry first => g.blockSequenceEntry first
  | .indentlessSequenceEntry => g.indentlessSequenceEntry
  | .blockMappingKey first => g.blockMappingKey first
  | .blockMappingValue => g.blockMappingValue
  | .flowSequenceEntry first => g.flowSequenceEntry first
  | .flowPairKey => g.flowPairKey
  | .flowPairValue => g.flowPairValue
  | .flowPairEnd => g.flowPairEnd
  | .flowMappingKey first => g.flowMappingKey first
  | .flowMappingValue => g.flowMappingValue
  | .flowMappingEmptyValue => do
    let token ← g.peek
    (g.expect (.flowMappingKey false)).empty token.start

/-- The events that are left, with fuel for the tokens. -/
def run : Nat → Grammar → List (Event String × Mark)
  | 0, _ => []
  | fuel + 1, g => match g.step with
    | none => []
    | some (.streamEnd, mark, _) => [(.streamEnd, mark)]
    | some (event, mark, g) => (event, mark) :: run fuel g

end Grammar

/-- The events of a text, with their marks. -/
def eventsOf (text : String) : List (Event String × Mark) :=
  match tokensOf text with
  | ⟨.streamStart, _, _⟩ :: tokens =>
    Grammar.run (8 * tokens.length + 16) ⟨tokens, .implicitDocumentStart, [], []⟩
  | _ => []

end SchemaNodes.Yaml
