import SchemaNodes.Toml.Scalar
import SchemaNodes.Toml.Table

/-!
# Option (Parsed TOML)

Values with their brackets, and documents line by line. Whatever is wrong with a document, there is
only one answer to it, so the readers give nothing instead of an error.
-/

namespace SchemaNodes.Toml

/-- The number of parts that a key may have. -/
def keyLimit : Nat := 79

/-- The number of arrays and inline tables that may stand in each other. -/
def depthLimit : Nat := 79

/-! ## Values -/

/-- The items of an array up to its closing bracket; a comma may stand behind the last. -/
def arrayItems (value : List Char → Option (Parsed Toml)) :
    (fuel : Nat) → List Char → Option (Parsed (List Toml))
  | 0, _ => none
  | fuel + 1, cs =>
    match skipFiller false cs with
    | ']' :: rest => some ([], rest)
    | cs => do
      let (item, rest) ← value cs
      match skipFiller false rest with
      | ',' :: rest => (arrayItems value fuel rest).map fun (items, rest) => (item :: items, rest)
      | ']' :: rest => some ([item], rest)
      | _ => none

/-- A key with the value behind the equals sign. -/
def pair (value : List Char → Option (Parsed Toml)) (cs : List Char) :
    Option (Parsed (List String × Toml)) := do
  let (key, rest) ← key keyLimit cs
  let (item, rest) ← value (skipBlanks (← expect '=' rest))
  some ((key, item), rest)

/-- The members of an inline table up to its closing brace, behind a first one; they stand on one
line. -/
def moreMembers (value : List Char → Option (Parsed Toml)) :
    (fuel : Nat) → Entries Item → List Char → Option (Parsed (Entries Item))
  | 0, _, _ => none
  | fuel + 1, members, cs => do
    let ((key, item), rest) ← pair value cs
    let members ← putValue key item .header members
    match skipBlanks rest with
    | ',' :: rest => moreMembers value fuel members rest
    | '\x7d' :: rest => some (members, rest)
    | _ => none

/-- The members of an inline table up to its closing brace. -/
def inlineMembers (value : List Char → Option (Parsed Toml)) (cs : List Char) :
    Option (Parsed (Entries Item)) :=
  match skipBlanks cs with
  | '\x7d' :: rest => some ([], rest)
  | cs => moreMembers value (cs.length + 1) [] cs

/-- A value in which at most `depth` arrays and inline tables stand in each other. -/
def value : (depth : Nat) → List Char → Option (Parsed Toml)
  | depth + 1, '[' :: rest =>
    (arrayItems (value depth) (rest.length + 1) rest).map fun (items, rest) => (.array items, rest)
  | depth + 1, '\x7b' :: rest =>
    (inlineMembers (value depth) rest).map fun (members, rest) =>
      (.table (membersToToml members), rest)
  | _, cs => scalar cs

/-! ## Documents -/

/-- A document up to some line: the members of its root table, and the key of the open table. -/
structure Draft where
  root : Entries Item
  current : List String

/-- What a line of a document may begin with, behind the blanks. -/
inductive Line where
  /-- The end of the line. -/
  | blank
  | table (key : List String)
  | item (key : List String)
  | pair (key : List String) (value : Toml)

/-- A header up to its closing bracket or brackets. -/
def header (closing : List Char) (cs : List Char) : Option (Parsed (List String)) := do
  let (key, rest) ← key keyLimit cs
  if closing.isPrefixOf rest then some (key, rest.drop closing.length) else none

/-- A line without its end. -/
def line (cs : List Char) : Option (Parsed Line) :=
  match cs with
  | [] | '#' :: _ | '\n' :: _ | '\r' :: _ => some (.blank, cs)
  | '[' :: '[' :: rest => (header [']', ']'] rest).map fun (key, rest) => (.item key, rest)
  | '[' :: rest => (header [']'] rest).map fun (key, rest) => (.table key, rest)
  | _ => (pair (value depthLimit) cs).map fun ((key, value), rest) => (.pair key value, rest)

/-- Carries out a line. -/
def Draft.apply (draft : Draft) : Line → Option Draft
  | .blank => some draft
  | .table key => do return ⟨← openTable key .header draft.root, key⟩
  | .item key => do return ⟨← openItem key .header draft.root, key⟩
  | .pair key value => do
    let root ← editAt false (putValue key value) draft.current .header draft.root
    return { draft with root }

/-- The document of a text, behind the lines that a draft holds. -/
def lines : (fuel : Nat) → Draft → List Char → Option Draft
  | 0, _, _ => none
  | _, draft, [] => some draft
  | fuel + 1, draft, cs => do
    let (line, rest) ← line (skipBlanks cs)
    lines fuel (← draft.apply line) (← lineEnd? rest)

/-- Reads a document: the members of its root table. -/
def read (text : String) : Option (Entries Toml) :=
  let cs := match text.toList with
    | '\uFEFF' :: rest => rest
    | cs => cs
  (lines (cs.length + 1) ⟨[], []⟩ cs).map fun draft => membersToToml draft.root

end SchemaNodes.Toml
