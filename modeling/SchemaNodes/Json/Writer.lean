import SchemaNodes.Json.Value
import SchemaNodes.Number.Text

/-!
# Writing JSON

The compact form has no blanks at all. The pretty form puts every item and member on a line of its
own, indented by two blanks for each level, with one blank after the colon; empty arrays and objects
stay on their line.

Doubles are written in the fewest digits that read back: positionally from `10 ^ -5` up to below
`10 ^ 16`, always with a point, and with a signed exponent outside that range.
-/

namespace SchemaNodes

namespace Json

/-- The exponents of the leading digit for which a double is written without an exponent. -/
def positionalExponents (leading : Int) : Bool := -5 ≤ leading && leading ≤ 15

/-- A double as it is written; what is not finite is written as null. -/
def doubleChars : Binary64 → List Char
  | .finite negative significand exponent =>
    let d := Binary64.shortest significand exponent
    Binary64.signChars negative ++
      if d.digits = 0 || positionalExponents d.leading then
        let body := d.positional
        if body.contains '.' then body else body ++ ['.', '0']
      else d.scientific
  | _ => ['n', 'u', 'l', 'l']

/-- An integer in base ten. -/
def intChars (n : Int) : List Char :=
  (if n < 0 then ['-'] else []) ++ Nat.toDigits 10 n.natAbs

/-- A number as it is written. -/
def numberChars : JsonNumber → List Char
  | .integer value => intChars value
  | .double value => doubleChars value

/-- One character of a string as it is written between the quotes: quotes, backslashes and control
characters are escaped, with a short form where there is one. -/
def escapeChar (c : Char) : List Char :=
  if c = '"' then ['\\', '"']
  else if c = '\\' then ['\\', '\\']
  else if c = '\x08' then ['\\', 'b']
  else if c = '\x0c' then ['\\', 'f']
  else if c = '\n' then ['\\', 'n']
  else if c = '\r' then ['\\', 'r']
  else if c = '\t' then ['\\', 't']
  else if c.toNat < 0x20 then
    ['\\', 'u', '0', '0', Nat.digitChar (c.toNat / 16), Nat.digitChar (c.toNat % 16)]
  else [c]

/-- A string between quotes. -/
def stringChars (s : String) : List Char := '"' :: s.toList.flatMap escapeChar ++ ['"']

/-- A truth value as it is written. -/
def boolChars : Bool → List Char
  | true => ['t', 'r', 'u', 'e']
  | false => ['f', 'a', 'l', 's', 'e']

/-- Texts with a comma between each two. -/
def commaSeparated : List (List Char) → List Char
  | [] => []
  | [last] => last
  | first :: rest => first ++ ',' :: commaSeparated rest

mutual

/-- The compact form. -/
def compactChars : Json → List Char
  | .null => ['n', 'u', 'l', 'l']
  | .bool value => boolChars value
  | .number value => numberChars value
  | .string value => stringChars value
  | .array items => '[' :: commaSeparated (compactItems items) ++ [']']
  | .object members => '\x7b' :: commaSeparated (compactMembers members) ++ ['\x7d']

/-- The compact forms of the items. -/
def compactItems : List Json → List (List Char)
  | [] => []
  | item :: rest => compactChars item :: compactItems rest

/-- The members, each as its key, a colon and its value. -/
def compactMembers : List (String × Json) → List (List Char)
  | [] => []
  | (name, value) :: rest =>
    (stringChars name ++ ':' :: compactChars value) :: compactMembers rest

end

/-- A new line, indented for the level. -/
def newLine (level : Nat) : List Char := '\n' :: List.replicate (2 * level) ' '

/-- Texts on lines of their own at a level, between the brackets of the level above. -/
def block (opening closing : Char) (level : Nat) (lines : List (List Char)) : List Char :=
  if lines.isEmpty then [opening, closing]
  else
    opening :: commaSeparated (lines.map (newLine (level + 1) ++ ·)) ++ newLine level ++ [closing]

mutual

/-- The pretty form of a value that stands at a level. -/
def prettyChars (level : Nat) : Json → List Char
  | .null => ['n', 'u', 'l', 'l']
  | .bool value => boolChars value
  | .number value => numberChars value
  | .string value => stringChars value
  | .array items => block '[' ']' level (prettyItems (level + 1) items)
  | .object members => block '\x7b' '\x7d' level (prettyMembers (level + 1) members)

/-- The pretty forms of the items. -/
def prettyItems (level : Nat) : List Json → List (List Char)
  | [] => []
  | item :: rest => prettyChars level item :: prettyItems level rest

/-- The members, each as its key, a colon, a blank and its value. -/
def prettyMembers (level : Nat) : List (String × Json) → List (List Char)
  | [] => []
  | (name, value) :: rest =>
    (stringChars name ++ ':' :: ' ' :: prettyChars level value) :: prettyMembers level rest

end

/-- The text of the compact form. -/
def compact (value : Json) : String := String.ofList value.compactChars

/-- The text of the pretty form. -/
def pretty (value : Json) : String := String.ofList (value.prettyChars 0)

end Json

/-- How a document is laid out as text. -/
inductive OutputFormat where
  | pretty
  | compact
  deriving DecidableEq, Repr, Inhabited

namespace OutputFormat

/-- The name of the format in settings. -/
def name : OutputFormat → String
  | .pretty => "pretty"
  | .compact => "compact"

/-- The value as text in the format. -/
def render : OutputFormat → Json → String
  | .pretty, value => value.pretty
  | .compact, value => value.compact

end OutputFormat

end SchemaNodes
