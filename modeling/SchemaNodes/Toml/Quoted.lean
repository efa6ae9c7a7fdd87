import SchemaNodes.Number.Text
import SchemaNodes.Toml.Basic

/-!
# TOML strings and keys

The four kinds of strings: between double quotes with escapes or between single quotes without, and
either on one line or, between tripled quotes, over several. Each reader gives what it has read with
the text behind, or nothing where the text is malformed.
-/

namespace SchemaNodes.Toml

/-- A value with the text behind it. -/
abbrev Parsed (α : Type) := α × List Char

/-! ## Escapes -/

/-- The character of a code point in hexadecimal digits, of which there are exactly `count`. -/
def codePoint (count : Nat) (cs : List Char) : Option (Parsed Char) := do
  let digits := cs.take count
  if digits.length < count then none
  let code ← digitsValue 16 0 digits
  if h : code.isValidChar then some (Char.ofNatAux code h, cs.drop count) else none

/-- The character that an escape behind a backslash stands for. -/
def escaped : List Char → Option (Parsed Char)
  | 'b' :: rest => some ('\x08', rest)
  | 'f' :: rest => some ('\x0c', rest)
  | 'n' :: rest => some ('\n', rest)
  | 'r' :: rest => some ('\r', rest)
  | 't' :: rest => some ('\t', rest)
  | '\\' :: rest => some ('\\', rest)
  | '"' :: rest => some ('"', rest)
  | 'u' :: rest => codePoint 4 rest
  | 'U' :: rest => codePoint 8 rest
  | _ => none

/-- What is left behind blanks and line breaks. -/
def skipGap : List Char → List Char
  | '\r' :: '\n' :: rest => skipGap rest
  | c :: rest => if isBlank c || c = '\n' then skipGap rest else c :: rest
  | [] => []

/-- What is left behind the rest of a line that ends in a backslash, with the blanks and line breaks
after it. -/
def continuation? (cs : List Char) : Option (List Char) :=
  (lineBreak? (skipBlanks cs)).map skipGap

/-! ## Strings -/

/-- Puts a character in front of what is read. -/
def Parsed.cons (c : Char) (parsed : Parsed (List Char)) : Parsed (List Char) :=
  (c :: parsed.1, parsed.2)

/-- The rest of a string on one line, up to its closing quote. -/
def lineBody (quote : Char) (escapes : Bool) :
    (fuel : Nat) → List Char → Option (Parsed (List Char))
  | 0, _ | _, [] => none
  | fuel + 1, c :: rest =>
    if c = quote then some ([], rest)
    else if escapes && c = '\\' then do
      let (c, rest) ← escaped rest
      (lineBody quote escapes fuel rest).map (Parsed.cons c)
    else if isText c then (lineBody quote escapes fuel rest).map (Parsed.cons c)
    else none

/-- The rest of a string over several lines, up to its closing quotes; of up to five quotes in a row
the last three close it, and the others belong to it. -/
def blockBody (quote : Char) (escapes : Bool) :
    (fuel : Nat) → List Char → Option (Parsed (List Char))
  | 0, _ | _, [] => none
  | fuel + 1, c :: rest =>
    if c = quote then
      let quotes := 1 + (rest.takeWhile (· = quote)).length
      if quotes < 3 then (blockBody quote escapes fuel rest).map (Parsed.cons c)
      else
        let kept := min (quotes - 3) 2
        some (List.replicate kept quote, rest.drop (kept + 2))
    else if escapes && c = '\\' then
      match continuation? rest with
      | some rest => blockBody quote escapes fuel rest
      | none => do
        let (c, rest) ← escaped rest
        (blockBody quote escapes fuel rest).map (Parsed.cons c)
    else match lineBreak? (c :: rest) with
      | some rest => (blockBody quote escapes fuel rest).map (Parsed.cons '\n')
      | none =>
        if isText c then (blockBody quote escapes fuel rest).map (Parsed.cons c) else none

/-- The text of what is read. -/
def Parsed.text (parsed : Parsed (List Char)) : Parsed String :=
  (String.ofList parsed.1, parsed.2)

/-- A string on one line. -/
def lineString : List Char → Option (Parsed String)
  | '"' :: rest => (lineBody '"' true (rest.length + 1) rest).map Parsed.text
  | '\'' :: rest => (lineBody '\'' false (rest.length + 1) rest).map Parsed.text
  | _ => none

/-- The beginning of the body of a string over several lines: a line break right behind the opening
quotes does not count. -/
def openBlock (cs : List Char) : List Char := (lineBreak? cs).getD cs

/-- A string. -/
def quotedString : List Char → Option (Parsed String)
  | '"' :: '"' :: '"' :: rest =>
    (blockBody '"' true (rest.length + 1) (openBlock rest)).map Parsed.text
  | '\'' :: '\'' :: '\'' :: rest =>
    (blockBody '\'' false (rest.length + 1) (openBlock rest)).map Parsed.text
  | cs => lineString cs

/-! ## Keys -/

/-- A part of a key: a string on one line, or bare characters. -/
def keyPart (cs : List Char) : Option (Parsed String) :=
  match cs with
  | '"' :: _ | '\'' :: _ => lineString cs
  | _ =>
    let bare := cs.takeWhile isBare
    if bare.isEmpty then none else some (String.ofList bare, cs.dropWhile isBare)

/-- A key of at most `limit` parts with points between them, and blanks around each. -/
def key : (limit : Nat) → List Char → Option (Parsed (List String))
  | 0, _ => none
  | limit + 1, cs => do
    let (part, rest) ← keyPart (skipBlanks cs)
    match skipBlanks rest with
    | '.' :: rest => (key limit rest).map fun (parts, rest) => (part :: parts, rest)
    | rest => some ([part], rest)

end SchemaNodes.Toml
