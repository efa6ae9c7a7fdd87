/-!
# YAML text

The rest of a YAML text with the mark reached in it, the classes of characters that tell tokens
apart, and the moves over blanks and line breaks. A line break is a line feed, a carriage return,
both in this order, or one of three further characters; inside scalars all but two of them read as a
line feed.
-/

namespace SchemaNodes.Yaml

/-- A place in a text. -/
structure Mark where
  /-- The bytes before the place. -/
  index : Nat
  /-- The lines before the place. -/
  line : Nat
  /-- The characters of the line before the place. -/
  column : Nat
  deriving DecidableEq, Repr, Inhabited

/-- The rest of a text and the place where it begins. -/
structure Source where
  rest : List Char
  mark : Mark
  deriving Repr, Inhabited

/-- Whether the character may stand in a text at all. -/
def isAllowed (c : Char) : Bool :=
  let n := c.toNat
  n == 0x09 || n == 0x0a || n == 0x0d || (0x20 ≤ n && n ≤ 0x7e) || n == 0x85 ||
    (0xa0 ≤ n && n ≤ 0xd7ff) || (0xe000 ≤ n && n ≤ 0xfffd) || 0x10000 ≤ n

/-- Whether the character breaks the line. -/
def isBreak (c : Char) : Bool :=
  c == '\n' || c == '\r' || c == '\u0085' || c == '\u2028' || c == '\u2029'

/-- Whether the character is a blank within a line. -/
def isBlank (c : Char) : Bool := c == ' ' || c == '\t'

/-- Whether the character may stand in a name: an ASCII letter or digit, an underscore or a hyphen.
-/
def isNameChar (c : Char) : Bool := c.isAlphanum || c == '_' || c == '-'

/-- Whether a blank, a line break or the end of the text is in front. -/
def blankOrEnd : List Char → Bool
  | [] => true
  | c :: _ => isBlank c || isBreak c

/-- Whether a line break or the end of the text is in front. -/
def breakOrEnd : List Char → Bool
  | [] => true
  | c :: _ => isBreak c

namespace Mark

/-- The mark behind a character that stands within a line. -/
def after (m : Mark) (c : Char) : Mark := ⟨m.index + c.utf8Size, m.line, m.column + 1⟩

/-- The beginning of the next line, behind a break of some bytes. -/
def nextLine (m : Mark) (bytes : Nat) : Mark := ⟨m.index + bytes, m.line + 1, 0⟩

end Mark

namespace Source

/-- The beginning of a text; a byte order mark is no part of it. -/
def ofString (text : String) : Source :=
  match text.toList with
  | '\ufeff' :: rest => ⟨rest, ⟨0, 0, 0⟩⟩
  | rest => ⟨rest, ⟨0, 0, 0⟩⟩

/-- Whether the given character is next. -/
def atChar (src : Source) (c : Char) : Bool := src.rest.head? == some c

/-- The source behind the next character, which stands within a line. -/
def next (src : Source) : Source :=
  match src.rest with
  | [] => src
  | c :: rest => ⟨rest, src.mark.after c⟩

/-- The source behind a line break, and the characters that the break reads as. -/
def nextLine (src : Source) : Source × List Char :=
  match src.rest with
  | '\r' :: '\n' :: rest => (⟨rest, src.mark.nextLine 2⟩, ['\n'])
  | c :: rest =>
    if c == '\u2028' || c == '\u2029' then (⟨rest, src.mark.nextLine c.utf8Size⟩, [c])
    else if isBreak c then (⟨rest, src.mark.nextLine c.utf8Size⟩, ['\n'])
    else (src, [])
  | [] => (src, [])

/-- Moves over the characters in front that satisfy `p`, none of which breaks the line. -/
def skipWhileFrom (p : Char → Bool) (mark : Mark) : List Char → Source
  | [] => ⟨[], mark⟩
  | c :: rest => if p c then skipWhileFrom p (mark.after c) rest else ⟨c :: rest, mark⟩

/-- Moves over the characters in front that satisfy `p`, none of which breaks the line. -/
def skipWhile (p : Char → Bool) (src : Source) : Source := skipWhileFrom p src.mark src.rest

/-- The characters in front that satisfy `p`, and the source behind them. -/
def takeWhile (p : Char → Bool) (src : Source) : List Char × Source :=
  (src.rest.takeWhile p, src.skipWhile p)

/-- Moves over a comment, if there is one, up to the end of the line. -/
def skipComment (src : Source) : Source :=
  if src.atChar '#' then src.skipWhile fun c => !isBreak c else src

/-- Whether the beginning of a line marks the beginning or the end of a document: three hyphens or
three points, and then a blank or the end of the line. -/
def atDocumentMarker (src : Source) : Bool :=
  src.mark.column == 0 && match src.rest with
    | '-' :: '-' :: '-' :: rest => blankOrEnd rest
    | '.' :: '.' :: '.' :: rest => blankOrEnd rest
    | _ => false

end Source

/-- The blanks and line breaks between two runs of characters of a scalar. -/
structure Gap where
  /-- Whether there is a line break. -/
  broken : Bool
  /-- The blanks, as long as there is no line break. -/
  blanks : List Char
  /-- The first line break. -/
  firstBreak : List Char
  /-- The further line breaks. -/
  moreBreaks : List Char
  deriving Repr, Inhabited

namespace Gap

/-- No blanks at all. -/
def none : Gap := ⟨false, [], [], []⟩

/-- What a gap reads as: its blanks, or the line breaks but for the first, or a blank if there is
only one break. -/
def chars (gap : Gap) : List Char :=
  if gap.broken then
    if gap.firstBreak = ['\n'] then
      if gap.moreBreaks = [] then [' '] else gap.moreBreaks
    else gap.firstBreak ++ gap.moreBreaks
  else gap.blanks

end Gap

/-- Moves over the blanks and line breaks in front, with fuel for the text. A tab before column
`indent` is refused behind a line break. -/
def scanGap (indent : Int) : Nat → Source → Gap → Option (Source × Gap)
  | 0, src, gap => some (src, gap)
  | fuel + 1, src, gap =>
    match src.rest with
    | [] => some (src, gap)
    | c :: _ =>
      if isBlank c then
        if gap.broken then
          if c == '\t' && (src.mark.column : Int) < indent then Option.none
          else scanGap indent fuel src.next gap
        else scanGap indent fuel src.next { gap with blanks := gap.blanks ++ [c] }
      else if isBreak c then
        let (src, chars) := src.nextLine
        if gap.broken then
          scanGap indent fuel src { gap with moreBreaks := gap.moreBreaks ++ chars }
        else scanGap indent fuel src ⟨true, [], chars, gap.moreBreaks⟩
      else some (src, gap)

end SchemaNodes.Yaml
