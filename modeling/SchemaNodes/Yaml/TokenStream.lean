import SchemaNodes.Yaml.Token

/-!
# From YAML text to tokens

Tokens are read one at a time, and between them stand those that the indentation means. What looks
like a scalar may turn out to be a key when a colon follows on the same line, within 1024 bytes;
until that is decided the token is held back, because a key, and perhaps the beginning of a mapping,
has to be put in front of it. `tokensOf` gives the tokens that are released before the text ends or
stops being acceptable.
-/

namespace SchemaNodes.Yaml

/-- A place where a key without indicator may begin. -/
structure KeyPlace where
  /-- Whether a key may begin here at all. -/
  possible : Bool
  /-- Whether only a key can begin here. -/
  required : Bool
  /-- The number of the token that would follow the key indicator. -/
  token : Nat
  /-- The place. -/
  mark : Mark
  deriving Repr, Inhabited

/-- No key may begin here. -/
def KeyPlace.none : KeyPlace := ⟨false, false, 0, default⟩

/-- A text that is being read: the tokens that wait and what the rest may continue. -/
structure TokenStream where
  src : Source
  /-- The tokens that have been read and not released. -/
  queue : List Token
  /-- The number of released tokens. -/
  released : Nat
  /-- The indentation of the innermost block, below zero outside of all. -/
  indent : Int
  /-- The indentations of the blocks around it, the innermost first. -/
  outer : List Int
  /-- The places of possible keys, one for every open flow collection and one for the block, the
  innermost first. -/
  keys : List KeyPlace
  /-- Whether a key may begin at the next token. -/
  keyAllowed : Bool
  deriving Inhabited

namespace TokenStream

/-- The beginning of a text. -/
def ofString (text : String) : TokenStream where
  src := .ofString text
  queue := [⟨.streamStart, default, default⟩]
  released := 0
  indent := -1
  outer := []
  keys := [.none]
  keyAllowed := true

/-- The mark that has been reached. -/
def mark (s : TokenStream) : Mark := s.src.mark

/-- Whether a flow collection is open. -/
def inFlow (s : TokenStream) : Bool := 1 < s.keys.length

/-- Adds a token. -/
def push (s : TokenStream) (kind : TokenKind) (start stop : Mark) : TokenStream :=
  { s with queue := s.queue ++ [⟨kind, start, stop⟩] }

/-- Inserts a token of no extent in front of the token of a number. -/
def insertAt (s : TokenStream) (number : Nat) (kind : TokenKind) (mark : Mark) : TokenStream :=
  { s with queue := s.queue.insertIdx (number - s.released) ⟨kind, mark, mark⟩ }

/-- The place of the innermost possible key. -/
def currentKey (s : TokenStream) : KeyPlace := s.keys.headD .none

/-- Replaces the place of the innermost possible key. -/
def setKey (s : TokenStream) (key : KeyPlace) : TokenStream :=
  { s with keys := key :: s.keys.drop 1 }

/-- Gives up the possible key; one that is required may not be given up. -/
def forgetKey (s : TokenStream) : Option TokenStream :=
  if s.currentKey.possible && s.currentKey.required then none
  else some (s.setKey { s.currentKey with possible := false })

/-- Notes that a key may begin here, if one is allowed. -/
def noteKey (s : TokenStream) : Option TokenStream :=
  if s.keyAllowed then
    s.forgetKey.map fun s => s.setKey {
      possible := true
      required := !s.inFlow && s.indent == (s.mark.column : Int)
      token := s.released + s.queue.length
      mark := s.mark }
  else some s

/-- Whether the text has moved too far from the place of a possible key. -/
def isFar (s : TokenStream) (key : KeyPlace) : Bool :=
  key.possible && (key.mark.line < s.mark.line || key.mark.index + 1024 < s.mark.index)

/-- Gives up a possible key if the text has moved too far from it. -/
def forgetFar (s : TokenStream) (key : KeyPlace) : KeyPlace :=
  if s.isFar key then { key with possible := false } else key

/-- Gives up the possible keys from which the text has moved too far. -/
def forgetFarKeys (s : TokenStream) : Option TokenStream :=
  if s.keys.any (fun key => s.isFar key && key.required) then none
  else some { s with keys := s.keys.map s.forgetFar }

/-- Opens a block of a column, if it is deeper than the innermost; its token goes in front of the
token of the number, or to the end. -/
def openBlock (s : TokenStream) (column : Nat) (number? : Option Nat) (kind : TokenKind)
    (mark : Mark) : TokenStream :=
  if s.inFlow || (column : Int) ≤ s.indent then s
  else
    let s := { s with outer := s.indent :: s.outer, indent := column }
    match number? with
    | some number => s.insertAt number kind mark
    | none => s.push kind mark mark

/-- Closes the blocks that are deeper than a column, given the indentations around them. -/
def closeBlocksOf (column : Int) : List Int → TokenStream → TokenStream
  | [], s => s
  | outer :: rest, s =>
    if column < s.indent then
      closeBlocksOf column rest
        { s.push .blockEnd s.mark s.mark with indent := outer, outer := rest }
    else s

/-- Closes the blocks that are deeper than a column. -/
def closeBlocks (s : TokenStream) (column : Int) : TokenStream :=
  if s.inFlow then s else closeBlocksOf column s.outer s

/-- Moves over blanks, comments and line breaks up to the next token, with fuel for the text. In a
block, a line break allows a key, and a tab is no blank where a key is allowed. -/
def toNextToken : Nat → TokenStream → TokenStream
  | 0, s => s
  | fuel + 1, s =>
    let src := if s.mark.index == 0 && s.src.atChar '\ufeff' then s.src.next else s.src
    let src := src.skipWhile fun c => c == ' ' || ((s.inFlow || !s.keyAllowed) && c == '\t')
    let src := src.skipComment
    match src.rest with
    | c :: _ =>
      if isBreak c then
        toNextToken fuel { s with src := src.nextLine.1, keyAllowed := s.keyAllowed || !s.inFlow }
      else { s with src }
    | [] => { s with src }

/-- Adds a token that ends where the source has moved to. -/
def pushTo (s : TokenStream) (kind : TokenKind) (src : Source) : TokenStream :=
  { s.push kind s.mark src.mark with src }

/-- Adds a token of a number of characters. -/
def pushChars (s : TokenStream) (kind : TokenKind) (count : Nat) : TokenStream :=
  s.pushTo kind (Source.nextBy count s.src)

/-- Ends all blocks, before something that stands outside of them. -/
def leaveBlocks (s : TokenStream) : Option TokenStream :=
  (s.closeBlocks (-1)).forgetKey.map fun s => { s with keyAllowed := false }

/-- Reads the end of the text. -/
def endText (s : TokenStream) : Option TokenStream :=
  let mark := if s.mark.column = 0 then s.mark else ⟨s.mark.index, s.mark.line + 1, 0⟩
  (leaveBlocks { s with src := { s.src with mark } }).map fun s =>
    s.push .streamEnd s.mark s.mark

/-- Reads a directive. -/
def directive (s : TokenStream) : Option TokenStream :=
  s.leaveBlocks.bind fun s =>
    s.src.scanDirective.map fun (kind, src, stop) =>
      { s.push kind s.mark stop with src }

/-- Reads the mark at the beginning or the end of a document. -/
def documentMarker (s : TokenStream) (kind : TokenKind) : Option TokenStream :=
  s.leaveBlocks.map fun s => s.pushChars kind 3

/-- Reads the beginning of a flow collection. -/
def openFlow (s : TokenStream) (kind : TokenKind) : Option TokenStream :=
  s.noteKey.map fun s =>
    { s with keys := .none :: s.keys, keyAllowed := true }.pushChars kind 1

/-- Reads the end of a flow collection. -/
def closeFlow (s : TokenStream) (kind : TokenKind) : Option TokenStream :=
  s.forgetKey.map fun s =>
    { s with keys := if s.inFlow then s.keys.drop 1 else s.keys, keyAllowed := false }.pushChars
      kind 1

/-- Reads the comma between entries of a flow collection. -/
def flowComma (s : TokenStream) : Option TokenStream :=
  s.forgetKey.map fun s => { s with keyAllowed := true }.pushChars .flowEntry 1

/-- Opens a block for an indicator that stands at the next character; in a block there must be room
for a key. -/
def openFor (s : TokenStream) (kind : TokenKind) : Option TokenStream :=
  if s.inFlow then some s
  else if s.keyAllowed then some (s.openBlock s.mark.column none kind s.mark)
  else none

/-- Reads the indicator of an entry of a block sequence. -/
def entryIndicator (s : TokenStream) : Option TokenStream :=
  (s.openFor .blockSequenceStart).bind fun s =>
    s.forgetKey.map fun s => { s with keyAllowed := true }.pushChars .blockEntry 1

/-- Reads the indicator of a key. -/
def keyIndicator (s : TokenStream) : Option TokenStream :=
  (s.openFor .blockMappingStart).bind fun s =>
    s.forgetKey.map fun s => { s with keyAllowed := !s.inFlow }.pushChars .key 1

/-- Reads the indicator of a value; what stood before it on the line becomes its key. -/
def valueIndicator (s : TokenStream) : Option TokenStream :=
  let key := s.currentKey
  if key.possible then
    let s := s.insertAt key.token .key key.mark
    let s := s.openBlock key.mark.column (some key.token) .blockMappingStart key.mark
    let s := s.setKey { key with possible := false }
    some ({ s with keyAllowed := false }.pushChars .value 1)
  else
    (s.openFor .blockMappingStart).map fun s =>
      { s with keyAllowed := !s.inFlow }.pushChars .value 1

/-- Reads something that may be a key. -/
def keyLike (s : TokenStream) (read : Source → Option (TokenKind × Source)) : Option TokenStream :=
  s.noteKey.bind fun s =>
    (read s.src).map fun (kind, src) => { s with keyAllowed := false }.pushTo kind src

/-- Reads a block scalar. -/
def blockText (s : TokenStream) (literal : Bool) : Option TokenStream :=
  s.forgetKey.bind fun s =>
    (s.src.blockScalar literal s.indent).map fun (text, src) =>
      { s with keyAllowed := true }.pushTo (.scalar text .block) src

/-- Reads a plain scalar; a key may follow it if it ends with its line. -/
def plainText (s : TokenStream) : Option TokenStream :=
  s.noteKey.bind fun s =>
    (s.src.plainScalar s.inFlow s.indent).map fun scanned =>
      { s.pushTo (.scalar scanned.text .plain) scanned.behind with
        keyAllowed := scanned.atNewLine }

/-- Whether a plain scalar can begin with the text. -/
def beginsPlain (flow : Bool) : List Char → Bool
  | [] => false
  | c :: rest =>
    !(isBlank c || isBreak c || "-?:,[]\x7b\x7d#&*!|>'\"%@\x60".toList.contains c) ||
      (c == '-' && !(rest.head?.map isBlank).getD false) ||
      (!flow && (c == '?' || c == ':') && !blankOrEnd rest)

/-- Reads the next token, at which the source stands. -/
def tokenHere (s : TokenStream) : Option TokenStream :=
  match s.src.rest with
  | [] => s.endText
  | c :: rest =>
    if s.mark.column == 0 && c == '%' then s.directive
    else if s.src.atDocumentMarker then
      s.documentMarker (if c == '-' then .documentStart else .documentEnd)
    else if c == '[' then s.openFlow .flowSequenceStart
    else if c == '\x7b' then s.openFlow .flowMappingStart
    else if c == ']' then s.closeFlow .flowSequenceEnd
    else if c == '\x7d' then s.closeFlow .flowMappingEnd
    else if c == ',' then s.flowComma
    else if c == '-' && blankOrEnd rest then s.entryIndicator
    else if c == '?' && (s.inFlow || blankOrEnd rest) then s.keyIndicator
    else if c == ':' && (s.inFlow || blankOrEnd rest) then s.valueIndicator
    else if c == '*' then s.keyLike fun src => src.next.scanName.map fun (n, b) => (.reference n, b)
    else if c == '&' then s.keyLike fun src => src.next.scanName.map fun (n, b) => (.anchor n, b)
    else if c == '!' then s.keyLike (Source.scanTag s.inFlow)
    else if c == '|' && !s.inFlow then s.blockText true
    else if c == '>' && !s.inFlow then s.blockText false
    else if c == '\x27' || c == '"' then
      s.keyLike fun src => (src.quotedScalar c).map fun (t, b) => (.scalar t .quoted, b)
    else if beginsPlain s.inFlow (c :: rest) then s.plainText
    else none

/-- Moves to the next token of the text and reads it. -/
def advance (s : TokenStream) : Option TokenStream :=
  (toNextToken (s.src.rest.length + 1) s).forgetFarKeys.bind fun s =>
    (s.closeBlocks s.mark.column).tokenHere

/-- Releases tokens in turn, with fuel for the text: a token is held back as long as a key may begin
at it. -/
def run : Nat → TokenStream → List Token
  | 0, _ => []
  | fuel + 1, s =>
    match s.queue with
    | [] => match s.advance with
      | some s => run fuel s
      | none => []
    | token :: rest => match s.forgetFarKeys with
      | none => []
      | some s =>
        if s.keys.any (fun key => key.possible && key.token == s.released) then
          match s.advance with
          | some s => run fuel s
          | none => []
        else if token.kind = .streamEnd then [token]
        else token :: run fuel { s with queue := rest, released := s.released + 1 }

end TokenStream

/-- The tokens of a text, up to its end or to the first place that is not acceptable. -/
def tokensOf (text : String) : List Token :=
  let s := TokenStream.ofString text
  if s.src.rest.all isAllowed then TokenStream.run (8 * s.src.rest.length + 16) s else []

end SchemaNodes.Yaml
