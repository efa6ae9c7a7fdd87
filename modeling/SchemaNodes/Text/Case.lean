import SchemaNodes.Text.CaseTable

/-!
# Upper and lower case

Full Unicode case mapping of characters, the lowercase of texts, and the one-letter variation that
accessor names use. ASCII is decided by range and every other character by the tables, so statements about ASCII
never meet a table.

Lowercasing a text gives a capital sigma its final form at the end of a word: after a cased letter
and not before one, where case-ignorable characters in between do not count.
-/

namespace SchemaNodes.Text

/-- Whether a code point lies in one of the runs. -/
def inRuns (code : Nat) (runs : List Run) : Bool :=
  runs.any fun (first, last, stride) =>
    first ≤ code && code ≤ last && (code - first) % stride == 0

/-- The image of a code point under the first shift whose run holds it. -/
def shifted (code : Nat) : List Shift → Option Nat
  | [] => none
  | (first, last, stride, offset) :: rest =>
    if first ≤ code && code ≤ last && (code - first) % stride == 0 then
      some ((code : Int) + offset).toNat
    else shifted code rest

/-- The image of a code point in a list of mappings to several characters. -/
def special (code : Nat) : List (Nat × List Nat) → Option (List Nat)
  | [] => none
  | (key, image) :: rest => if key = code then some image else special code rest

/-- Whether the character is ASCII. -/
def isAscii (c : Char) : Bool := c.toNat < 128

/-- Whether the character has the property Uppercase. -/
def isUppercase (c : Char) : Bool :=
  if isAscii c then c.isUpper else inRuns c.toNat uppercaseRuns

/-- Whether the character has the property Lowercase. -/
def isLowercase (c : Char) : Bool :=
  if isAscii c then c.isLower else inRuns c.toNat lowercaseRuns

/-- Whether the character is a letter with case. -/
def isCased (c : Char) : Bool :=
  isUppercase c || isLowercase c || inRuns c.toNat titlecaseRuns

/-- Whether a character between two letters is passed over when their case is compared. -/
def isCaseIgnorable (c : Char) : Bool :=
  if isAscii c then c == '\x27' || c == '.' || c == ':' || c == '^' || c == '\x60'
  else inRuns c.toNat caseIgnorableRuns

/-- The full lowercase mapping of one character. -/
def lower (c : Char) : List Char :=
  if isAscii c then [c.toLower]
  else match special c.toNat lowerSpecials with
    | some image => image.map Char.ofNat
    | none => [Char.ofNat ((shifted c.toNat lowerShifts).getD c.toNat)]

/-- The full uppercase mapping of one character. -/
def upper (c : Char) : List Char :=
  if isAscii c then [c.toUpper]
  else match special c.toNat upperSpecials with
    | some image => image.map Char.ofNat
    | none => [Char.ofNat ((shifted c.toNat upperShifts).getD c.toNat)]

/-- Whether the first character that counts, going outward from a place in a text, is cased. -/
def reachesCased : List Char → Bool
  | [] => false
  | c :: rest => if isCaseIgnorable c then reachesCased rest else isCased c

/-- The lowercase of the characters after those in `before`, which come last first. -/
def lowerAfter (before : List Char) : List Char → List Char
  | [] => []
  | c :: rest =>
    (if c = 'Σ' then [if reachesCased before && !reachesCased rest then 'ς' else 'σ'] else lower c)
      ++ lowerAfter (c :: before) rest

/-- The lowercase of a text. -/
def lowercase (text : String) : String := String.ofList (lowerAfter [] text.toList)

/-- The lowercase of ASCII capitals; every other character stays. -/
def asciiLower (text : String) : String := String.ofList (text.toList.map Char.toLower)

/-- The characters of a name with the case of the first one swapped: a capital is lowered, anything
else is raised. -/
def swapFirst : List Char → List Char
  | [] => []
  | c :: rest => (if isUppercase c then lower c else upper c) ++ rest

/-- The name with the case of its first letter swapped (`Subnets` and `subnets`). -/
def swapFirstCase (name : String) : String := String.ofList (swapFirst name.toList)

end SchemaNodes.Text
