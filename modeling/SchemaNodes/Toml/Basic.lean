import SchemaNodes.Dict
import SchemaNodes.Number.Binary64

/-!
# TOML values and characters

The values of a TOML document, and the classes of its characters. A date is kept as its normal text,
because nothing here calculates with dates.
-/

namespace SchemaNodes

/-- A TOML value. -/
inductive Toml where
  | string (text : String)
  | integer (n : Int)
  | float (x : Binary64)
  | boolean (b : Bool)
  /-- A date, a time or both, in normal text. -/
  | moment (text : String)
  | array (items : List Toml)
  /-- Members in ascending order of their keys. -/
  | table (members : List (String × Toml))
  deriving Inhabited

namespace Toml

/-- Spaces and tabs, which may stand between the tokens of a line. -/
def isBlank (c : Char) : Bool := c == ' ' || c == '\t'

/-- The characters that may stand in a comment or between quotes: tab, and whatever is no ASCII
control character. -/
def isText (c : Char) : Bool := c == '\t' || (' ' ≤ c && c != '\x7f')

/-- The characters of a key that needs no quotes. -/
def isBare (c : Char) : Bool := c.isAlphanum || c == '_' || c == '-'

/-- What is left behind the blanks at the beginning. -/
def skipBlanks (cs : List Char) : List Char := cs.dropWhile isBlank

/-- What is left behind a line break at the beginning. -/
def lineBreak? : List Char → Option (List Char)
  | '\n' :: rest | '\r' :: '\n' :: rest => some rest
  | _ => none

/-- What is left behind a comment at the beginning, if there is one. -/
def skipComment : List Char → List Char
  | '#' :: rest => rest.dropWhile isText
  | cs => cs

/-- What is left behind the end of a line: blanks, a comment, and a line break or the end of the
text. -/
def lineEnd? (cs : List Char) : Option (List Char) :=
  match skipComment (skipBlanks cs) with
  | [] => some []
  | rest => lineBreak? rest

/-- What is left behind blanks, line breaks and comments; `inComment` says whether a comment has
begun. -/
def skipFiller : (inComment : Bool) → List Char → List Char
  | _, [] => []
  | _, '\n' :: rest => skipFiller false rest
  | _, '\r' :: '\n' :: rest => skipFiller false rest
  | true, c :: rest => if isText c then skipFiller true rest else c :: rest
  | false, c :: rest =>
    if isBlank c then skipFiller false rest
    else if c = '#' then skipFiller true rest
    else c :: rest

end Toml

end SchemaNodes
