import SchemaNodes.Toml.Basic

/-!
# Writing TOML strings and keys

A text is written in the plainest of the four kinds of strings that can hold it without an escape:
between double quotes, between single quotes, and over several lines with double or single quotes;
what none of them can hold is written between double quotes with escapes.
-/

namespace SchemaNodes.Toml

/-! ## What stands in the way of a kind of string -/

/-- The length of the longest run of a character. -/
def longestRun (c : Char) (cs : List Char) : Nat :=
  (cs.foldl (fun (current, longest) d =>
    let current := if d = c then current + 1 else 0
    (current, max longest current)) (0, 0)).2

/-- Whether a character can only be written as an escape. -/
def needsEscape (c : Char) : Bool :=
  (c < ' ' && c != '\t' && c != '\n') || c == '\x7f'

/-- The kinds of strings. -/
inductive StringStyle where
  | line
  | literalLine
  | block
  | literalBlock
  deriving DecidableEq, Repr, Inhabited

/-- Whether a kind of string holds a text as it is. -/
def StringStyle.holds (style : StringStyle) (cs : List Char) : Bool :=
  let controls := cs.any needsEscape
  match style with
  | .line => !controls && !cs.contains '\\' && !cs.contains '"' && !cs.contains '\n'
  | .literalLine => !controls && !cs.contains '\'' && !cs.contains '\n'
  | .block => !controls && !cs.contains '\\' && longestRun '"' cs ≤ 2
  | .literalBlock => !controls && longestRun '\'' cs ≤ 2

/-- The kind of string for a text: the first that holds it as it is, else one with escapes. -/
def StringStyle.for (cs : List Char) : StringStyle :=
  let fallback := if cs.contains '\n' then .block else .line
  ([.line, .literalLine, .block, .literalBlock].find? (·.holds cs)).getD fallback

/-! ## Strings -/

/-- Four hexadecimal digits of a code point. -/
def fourDigits (code : Nat) : List Char :=
  let digits := (Nat.toDigits 16 code).map Char.toUpper
  List.replicate (4 - digits.length) '0' ++ digits

/-- A character between double quotes that are not tripled, apart from quotes. -/
def escapedChar (c : Char) : List Char :=
  match c with
  | '\x08' => ['\\', 'b']
  | '\t' => ['\\', 't']
  | '\n' => ['\\', 'n']
  | '\x0c' => ['\\', 'f']
  | '\r' => ['\\', 'r']
  | '\\' => ['\\', '\\']
  | c => if c < ' ' || c = '\x7f' then '\\' :: 'u' :: fourDigits c.toNat else [c]

/-- The body of a string between double quotes. Over several lines line breaks stand for themselves,
and only every third quote in a row is escaped; `quotes` is the number of those just before. -/
def escapedBody (block : Bool) : (quotes : Nat) → List Char → List Char
  | _, [] => []
  | quotes, c :: rest =>
    if c = '"' then
      if block && quotes < 2 then c :: escapedBody block (quotes + 1) rest
      else '\\' :: c :: escapedBody block 0 rest
    else if block && c = '\n' then c :: escapedBody block 0 rest
    else escapedChar c ++ escapedBody block 0 rest

/-- A string in a style. Behind the opening quotes of several lines a line break is put, unless
there is only one line. -/
def stringIn (style : StringStyle) (cs : List Char) : List Char :=
  let start := if cs.contains '\n' then ['\n'] else []
  let doubles := ['"', '"', '"']
  let singles := ['\'', '\'', '\'']
  match style with
  | .line => '"' :: escapedBody false 0 cs ++ ['"']
  | .literalLine => '\'' :: cs ++ ['\'']
  | .block => doubles ++ start ++ escapedBody true 0 cs ++ doubles
  | .literalBlock => singles ++ start ++ cs ++ singles

/-- A string. -/
def stringChars (text : String) : List Char :=
  stringIn (.for text.toList) text.toList

/-! ## Keys and arrays -/

/-- A key of one part: bare, or a string on one line. -/
def keyChars (key : String) : List Char :=
  let cs := key.toList
  if cs.all isBare && !cs.isEmpty then cs
  else if StringStyle.literalLine.holds cs && !StringStyle.line.holds cs then
    stringIn .literalLine cs
  else stringIn .line cs

/-- An array of strings: on one line up to one item, else one item a line. -/
def stringArrayChars : List String → List Char
  | [] => ['[', ']']
  | [text] => '[' :: stringChars text ++ [']']
  | texts =>
    "[\n".toList ++ texts.flatMap (fun text => "    ".toList ++ stringChars text ++ ",\n".toList)
      ++ [']']

end SchemaNodes.Toml
