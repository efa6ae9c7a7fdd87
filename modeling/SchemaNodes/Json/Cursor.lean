import SchemaNodes.Json.Value
import SchemaNodes.Number.Text

/-!
# Reading JSON text: places, complaints and tokens

A `Cursor` is the rest of a text and the place reached in it. Readers return the cursor behind what
they read, or an error with the place where the text stops being acceptable. Lines count from one
and columns count the bytes read in the line, so that the first character of a line, once read, is
in column one.

Values that nobody asks for are skipped by `skipString` and `skipNumber`, which demand less than
`readString` and `readNumber`: escapes need only be complete, and a number may be of any size.
-/

namespace SchemaNodes.Json

/-- A place in a text. -/
structure Place where
  /-- The line, from one. -/
  line : Nat
  /-- The bytes of the line that lie before the place. -/
  column : Nat
  deriving DecidableEq, Repr, Inhabited

/-- What is wrong with a text or a value. -/
inductive Complaint where
  | listEnds
  | objectEnds
  | stringEnds
  | valueEnds
  | expectedColon
  | expectedCommaOrBracket
  | expectedCommaOrBrace
  | expectedWord
  | expectedValue
  | invalidEscape
  | invalidNumber
  | numberOutOfRange
  | controlCharacter
  | keyNotString
  | loneSurrogate
  | surrogateEnds
  | trailingComma
  | trailingCharacters
  | tooDeep
  /-- The text is well formed, and the value in it is not what is wanted. -/
  | unfit (message : String)
  deriving DecidableEq, Repr, Inhabited

/-- The words of a complaint. -/
def Complaint.message : Complaint → String
  | .listEnds => "EOF while parsing a list"
  | .objectEnds => "EOF while parsing an object"
  | .stringEnds => "EOF while parsing a string"
  | .valueEnds => "EOF while parsing a value"
  | .expectedColon => "expected `:`"
  | .expectedCommaOrBracket => "expected `,` or `]`"
  | .expectedCommaOrBrace => "expected `,` or `\x7d`"
  | .expectedWord => "expected ident"
  | .expectedValue => "expected value"
  | .invalidEscape => "invalid escape"
  | .invalidNumber => "invalid number"
  | .numberOutOfRange => "number out of range"
  | .controlCharacter => "control character (\\u0000-\\u001F) found while parsing a string"
  | .keyNotString => "key must be a string"
  | .loneSurrogate => "lone leading surrogate in hex escape"
  | .surrogateEnds => "unexpected end of hex escape"
  | .trailingComma => "trailing comma"
  | .trailingCharacters => "trailing characters"
  | .tooDeep => "recursion limit exceeded"
  | .unfit message => message

/-- A complaint, with its place once that is known. -/
structure ReadError where
  complaint : Complaint
  place : Option Place
  deriving DecidableEq, Repr, Inhabited

/-- The complaint, followed by its place. -/
def ReadError.message (e : ReadError) : String :=
  match e.place with
  | none => e.complaint.message
  | some p => s!"{e.complaint.message} at line {p.line} column {p.column}"

/-- The rest of a text and the place where it begins. -/
structure Cursor where
  rest : List Char
  place : Place
  deriving Repr, Inhabited

namespace Place

/-- The first place of a text. -/
def start : Place := ⟨1, 0⟩

/-- The place behind a number of bytes of one character. -/
def after (p : Place) (c : Char) (bytes : Nat) : Place :=
  if c = '\n' then ⟨p.line + 1, 0⟩ else ⟨p.line, p.column + bytes⟩

end Place

namespace Cursor

/-- The beginning of a text. -/
def ofString (text : String) : Cursor := ⟨text.toList, .start⟩

/-- The cursor behind the next character. -/
def next (cur : Cursor) : Cursor :=
  match cur.rest with
  | [] => cur
  | c :: rest => ⟨rest, cur.place.after c c.utf8Size⟩

/-- The next character. -/
def peek? (cur : Cursor) : Option Char := cur.rest.head?

/-- The place that includes the first byte of the next character: where a complaint about that
character points. -/
def peekPlace (cur : Cursor) : Place :=
  match cur.rest with
  | [] => cur.place
  | c :: _ => cur.place.after c 1

/-- A complaint about what was read last. -/
def error {α : Type} (cur : Cursor) (complaint : Complaint) : Except ReadError α :=
  .error ⟨complaint, some cur.place⟩

/-- A complaint about the next character. -/
def peekError {α : Type} (cur : Cursor) (complaint : Complaint) : Except ReadError α :=
  .error ⟨complaint, some cur.peekPlace⟩

/-- Moves over the characters in front that satisfy `p`. -/
def skipWhile (p : Char → Bool) (rest : List Char) (place : Place) : Cursor :=
  match rest with
  | [] => ⟨[], place⟩
  | c :: more =>
    if p c then skipWhile p more (place.after c c.utf8Size) else ⟨c :: more, place⟩

/-- Whether JSON takes the character for a blank. -/
def isBlank (c : Char) : Bool := c == ' ' || c == '\n' || c == '\t' || c == '\r'

/-- Moves over blanks. -/
def skipBlanks (cur : Cursor) : Cursor := skipWhile isBlank cur.rest cur.place

/-- The digits in front, and the cursor behind them. -/
def digits (cur : Cursor) : List Char × Cursor :=
  (cur.rest.takeWhile isDigit, skipWhile isDigit cur.rest cur.place)

/-- Moves over a number of bytes, which may end inside a character; `none` if the text is shorter.
-/
def skipBytes (rest : List Char) (place : Place) (bytes : Nat) : Option Cursor :=
  match rest, bytes with
  | rest, 0 => some ⟨rest, place⟩
  | [], _ + 1 => none
  | c :: more, bytes =>
    if c.utf8Size ≤ bytes then
      skipBytes more (place.after c c.utf8Size) (bytes - c.utf8Size)
    else some ⟨more, place.after c bytes⟩
  termination_by rest.length

/-- Reads the rest of a word whose first letter has been recognised. -/
def word (cur : Cursor) : List Char → Except ReadError Cursor
  | [] => .ok cur
  | expected :: more =>
    match cur.rest with
    | [] => cur.error .valueEnds
    | c :: _ =>
      if c = expected then word cur.next more
      else .error ⟨.expectedWord, some cur.peekPlace⟩

/-! ## Strings -/

/-- The end of the text. -/
def atEnd (cur : Cursor) : Place :=
  (skipWhile (fun _ => true) cur.rest cur.place).place

/-- Reads four hexadecimal digits. -/
def hexEscape (cur : Cursor) : Except ReadError (Nat × Cursor) :=
  match cur.rest with
  | a :: b :: c :: d :: _ =>
    match digitsValue 16 0 [a, b, c, d] with
    | some value => .ok (value, cur.next.next.next.next)
    | none => match skipBytes cur.rest cur.place 4 with
      | some behind => behind.error .invalidEscape
      | none => .error ⟨.stringEnds, some cur.atEnd⟩
  | _ => match skipBytes cur.rest cur.place 4 with
    | some behind => behind.error .invalidEscape
    | none => .error ⟨.stringEnds, some cur.atEnd⟩

/-- What a one-letter escape stands for. -/
def shortEscape? : Char → Option Char
  | '"' => some '"'
  | '\\' => some '\\'
  | '/' => some '/'
  | 'b' => some '\x08'
  | 'f' => some '\x0c'
  | 'n' => some '\n'
  | 'r' => some '\r'
  | 't' => some '\t'
  | _ => none

/-- Reads the second half of a surrogate pair, whose first half is given. -/
def secondSurrogate (first : Nat) (cur : Cursor) : Except ReadError (Char × Cursor) :=
  match cur.rest with
  | [] => cur.error .stringEnds
  | '\\' :: _ =>
    let cur := cur.next
    match cur.rest with
    | [] => cur.error .stringEnds
    | 'u' :: _ => do
      let (second, cur) ← cur.next.hexEscape
      if second < 0xDC00 || 0xDFFF < second then cur.error .loneSurrogate
      else .ok (Char.ofNat ((first - 0xD800) * 0x400 + (second - 0xDC00) + 0x10000), cur)
    | _ :: _ => .error ⟨.surrogateEnds, some cur.peekPlace⟩
  | _ :: _ => .error ⟨.surrogateEnds, some cur.peekPlace⟩

/-- Reads an escape behind its backslash. -/
def escape (cur : Cursor) : Except ReadError (Char × Cursor) :=
  match cur.rest with
  | [] => cur.error .stringEnds
  | 'u' :: _ => do
    let (code, cur) ← cur.next.hexEscape
    if 0xDC00 ≤ code && code ≤ 0xDFFF then cur.error .loneSurrogate
    else if 0xD800 ≤ code && code ≤ 0xDBFF then secondSurrogate code cur
    else .ok (Char.ofNat code, cur)
  | c :: _ => match shortEscape? c with
    | some value => .ok (value, cur.next)
    | none => .error ⟨.invalidEscape, some cur.peekPlace⟩

/-- Reads the characters of a string up to its closing quote, with fuel for the characters of the
text; `acc` holds those read so far, last first. -/
def stringBody : Nat → Cursor → List Char → Except ReadError (String × Cursor)
  | 0, cur, _ => cur.error .stringEnds
  | fuel + 1, cur, acc =>
    match cur.rest with
    | [] => cur.error .stringEnds
    | '"' :: _ => .ok (String.ofList acc.reverse, cur.next)
    | '\\' :: _ => do
      let (c, cur) ← cur.next.escape
      stringBody fuel cur (c :: acc)
    | c :: _ =>
      if c.toNat < 0x20 then cur.next.error .controlCharacter
      else stringBody fuel cur.next (c :: acc)

/-- Reads a string behind its opening quote. -/
def readString (cur : Cursor) : Except ReadError (String × Cursor) :=
  stringBody (cur.rest.length + 1) cur []

/-- Skips an escape behind its backslash. -/
def skipEscape (cur : Cursor) : Except ReadError Cursor :=
  match cur.rest with
  | [] => cur.error .stringEnds
  | 'u' :: _ => (·.2) <$> cur.next.hexEscape
  | c :: _ =>
    if (shortEscape? c).isSome then .ok cur.next
    else .error ⟨.invalidEscape, some cur.peekPlace⟩

/-- Skips the characters of a string up to its closing quote. -/
def skipStringBody : Nat → Cursor → Except ReadError Cursor
  | 0, cur => cur.error .stringEnds
  | fuel + 1, cur =>
    match cur.rest with
    | [] => cur.error .stringEnds
    | '"' :: _ => .ok cur.next
    | '\\' :: _ => do skipStringBody fuel (← cur.next.skipEscape)
    | c :: _ =>
      if c.toNat < 0x20 then cur.error .controlCharacter else skipStringBody fuel cur.next

/-- Skips a string behind its opening quote. -/
def skipString (cur : Cursor) : Except ReadError Cursor :=
  skipStringBody (cur.rest.length + 1) cur

/-! ## Numbers -/

/-- The greatest exponent that is still counted. -/
def exponentLimit : Nat := twoTo 31 - 1

/-- The digits of an exponent up to the first at which it exceeds the limit, if there is one. -/
def exponentOverflow? (acc : Nat) (seen : Nat) : List Char → Option Nat
  | [] => none
  | c :: rest =>
    let acc := acc * 10 + (c.toNat - '0'.toNat)
    if exponentLimit < acc then some (seen + 1) else exponentOverflow? acc (seen + 1) rest

/-- A number from the parts of its text: the sign, the digits before and behind the point, and the
exponent, with whether there was a point or an exponent at all. -/
def numberOf (negative : Bool) (whole fraction : List Char) (exponent : Int) (real : Bool) :
    JsonNumber :=
  let digits := (digitsValue 10 0 (whole ++ fraction)).getD 0
  if real then .double (.round negative digits (exponent - fraction.length))
  else if negative then
    if 0 < digits && digits ≤ twoTo 63 then .integer (-(digits : Int))
    else .double (.round true digits 0)
  else if digits < twoTo 64 then .integer digits
  else .double (.round false digits 0)

/-- Refuses a number that is too large for a double; `behind` is the cursor behind it. -/
def inRange (n : JsonNumber) (behind : Cursor) : Except ReadError (JsonNumber × Cursor) :=
  match n with
  | .double (.infinite _) => behind.error .numberOutOfRange
  | n => .ok (n, behind)

/-- Reads an exponent behind its letter. -/
def readExponent (negative : Bool) (whole fraction : List Char) (cur : Cursor) :
    Except ReadError (JsonNumber × Cursor) :=
  let (down, cur) := match cur.rest with
    | '+' :: _ => (false, cur.next)
    | '-' :: _ => (true, cur.next)
    | _ => (false, cur)
  match cur.rest with
  | [] => cur.error .valueEnds
  | c :: _ =>
    if !isDigit c then .error ⟨.invalidNumber, some cur.peekPlace⟩
    else
      let (digits, behind) := cur.digits
      let zero := (digitsValue 10 0 (whole ++ fraction)).getD 0 == 0
      match exponentOverflow? 0 0 digits with
      | some seen =>
        if zero || down then .ok (.double (.zero negative), behind)
        else .error ⟨.numberOutOfRange, some ⟨cur.place.line, cur.place.column + seen⟩⟩
      | none =>
        let value : Int := (digitsValue 10 0 digits).getD 0
        inRange (numberOf negative whole fraction (if down then -value else value) true) behind

/-- Reads what follows the digits before the point. -/
def readFraction (negative : Bool) (whole : List Char) (cur : Cursor) :
    Except ReadError (JsonNumber × Cursor) :=
  match cur.rest with
  | '.' :: _ =>
    let (fraction, behind) := cur.next.digits
    if fraction.isEmpty then
      match behind.rest with
      | [] => behind.peekError .valueEnds
      | _ :: _ => behind.peekError .invalidNumber
    else match behind.rest with
      | 'e' :: _ | 'E' :: _ => readExponent negative whole fraction behind.next
      | _ => inRange (numberOf negative whole fraction 0 true) behind
  | 'e' :: _ | 'E' :: _ => readExponent negative whole [] cur.next
  | _ => inRange (numberOf negative whole [] 0 false) cur

/-- Reads a number behind its sign. -/
def readUnsigned (negative : Bool) (cur : Cursor) : Except ReadError (JsonNumber × Cursor) :=
  match cur.rest with
  | [] => cur.error .valueEnds
  | '0' :: _ =>
    let cur := cur.next
    match cur.rest with
    | c :: _ => if isDigit c then cur.peekError .invalidNumber else readFraction negative ['0'] cur
    | [] => readFraction negative ['0'] cur
  | c :: _ =>
    if isDigit c then
      let (whole, behind) := cur.digits
      readFraction negative whole behind
    else .error ⟨.invalidNumber, some cur.peekPlace⟩

/-- Reads a number. -/
def readNumber (cur : Cursor) : Except ReadError (JsonNumber × Cursor) :=
  match cur.rest with
  | '-' :: _ => readUnsigned true cur.next
  | _ => readUnsigned false cur

/-- Skips an exponent behind its letter. -/
def skipExponent (cur : Cursor) : Except ReadError Cursor :=
  let cur := match cur.rest with
    | '+' :: _ | '-' :: _ => cur.next
    | _ => cur
  match cur.rest with
  | c :: _ => if isDigit c then .ok cur.digits.2 else .error ⟨.invalidNumber, some cur.peekPlace⟩
  | [] => cur.error .invalidNumber

/-- Skips what follows the digits before the point. -/
def skipFraction (cur : Cursor) : Except ReadError Cursor :=
  match cur.rest with
  | '.' :: _ =>
    let (fraction, behind) := cur.next.digits
    if fraction.isEmpty then behind.peekError .invalidNumber
    else match behind.rest with
      | 'e' :: _ | 'E' :: _ => skipExponent behind.next
      | _ => .ok behind
  | 'e' :: _ | 'E' :: _ => skipExponent cur.next
  | _ => .ok cur

/-- Skips a number. -/
def skipNumber (cur : Cursor) : Except ReadError Cursor :=
  let cur := match cur.rest with
    | '-' :: _ => cur.next
    | _ => cur
  match cur.rest with
  | [] => cur.error .invalidNumber
  | '0' :: _ =>
    let cur := cur.next
    match cur.rest with
    | c :: _ => if isDigit c then cur.peekError .invalidNumber else skipFraction cur
    | [] => skipFraction cur
  | c :: _ =>
    if isDigit c then skipFraction cur.digits.2
    else .error ⟨.invalidNumber, some cur.peekPlace⟩

end Cursor

end SchemaNodes.Json
