import SchemaNodes.Yaml.Scalar

/-!
# YAML tokens

The pieces that a YAML text consists of, and the readers of those that stand for themselves:
anchors, aliases, tags and directives. Where blocks begin and end is told by tokens too, which no
character writes: they follow from the indentation.
-/

namespace SchemaNodes.Yaml

/-- What a token is. -/
inductive TokenKind where
  | streamStart
  | streamEnd
  | versionDirective (major minor : Nat)
  | tagDirective (handle start : String)
  | documentStart
  | documentEnd
  | blockSequenceStart
  | blockMappingStart
  | blockEnd
  | flowSequenceStart
  | flowSequenceEnd
  | flowMappingStart
  | flowMappingEnd
  | blockEntry
  | flowEntry
  | key
  | value
  | reference (name : String)
  | anchor (name : String)
  | tag (handle suffix : String)
  | scalar (text : String) (style : ScalarStyle)
  deriving DecidableEq, Repr, Inhabited

/-- A token with the marks at its beginning and behind it. -/
structure Token where
  kind : TokenKind
  start : Mark
  stop : Mark
  deriving Repr, Inhabited

namespace Source

/-- Reads the name of an anchor or alias behind its indicator. -/
def scanName (src : Source) : Option (String × Source) :=
  let (name, src) := src.takeWhile isNameChar
  let ends := match src.rest with
    | [] => true
    | c :: _ => isBlank c || isBreak c || "?:,]\x7d%@\x60".toList.contains c
  if name = [] || !ends then none else some (String.ofList name, src)

/-- Whether the character may stand in a tag; a verbatim tag may hold three more. -/
def isTagChar (verbatim : Bool) (c : Char) : Bool :=
  isNameChar c || ";/?:@&=+$.%!~*'()".toList.contains c ||
    (verbatim && (c == ',' || c == '[' || c == ']'))

/-- Reads an escaped octet at its percent sign. -/
def scanOctet (src : Source) : Option (Nat × Source) :=
  match src.rest with
  | '%' :: a :: b :: _ =>
    if (digitValue? 16 a).isSome && (digitValue? 16 b).isSome then
      (digitsValue 16 0 [a, b]).map fun value => (value, src.next.next.next)
    else none
  | _ => none

/-- Reads a number of escaped octets that continue a character. -/
def scanContinuation : Nat → Source → Nat → Option (Nat × Source)
  | 0, src, code => some (code, src)
  | n + 1, src, code => (scanOctet src).bind fun (octet, src) =>
    if octet / 64 = 2 then scanContinuation n src (code * 64 + octet % 64) else none

/-- Reads a character that is given by its escaped octets. -/
def scanOctets (src : Source) : Option (Char × Source) :=
  (scanOctet src).bind fun (octet, src) =>
    let whole (n lead : Nat) := (scanContinuation n src lead).map fun (code, src) =>
      (Char.ofNat code, src)
    if octet < 0x80 then some (Char.ofNat octet, src)
    else if octet / 32 = 6 then whole 1 (octet % 32)
    else if octet / 16 = 14 then whole 2 (octet % 16)
    else if octet / 8 = 30 then whole 3 (octet % 8)
    else none

/-- Reads the characters of a tag, with fuel for the text. -/
def tagChars (verbatim : Bool) : Nat → Source → List Char → Option (List Char × Source)
  | 0, _, _ => none
  | fuel + 1, src, acc =>
    match src.rest with
    | c :: _ =>
      if c = '%' then (scanOctets src).bind fun (c, src) => tagChars verbatim fuel src (c :: acc)
      else if isTagChar verbatim c then tagChars verbatim fuel src.next (c :: acc)
      else some (acc.reverse, src)
    | [] => some (acc.reverse, src)

/-- Reads the characters of a tag; there must be one. -/
def scanTagChars (verbatim : Bool) (src : Source) : Option (List Char × Source) :=
  (tagChars verbatim (src.rest.length + 1) src []).filter fun (chars, _) => chars ≠ []

/-- Reads a handle at its exclamation mark: a name between two of them, or what might be the
beginning of a tag of the primary handle. -/
def scanHandle (src : Source) : Option (List Char × Source) :=
  if src.atChar '!' then
    let (name, src) := src.next.takeWhile isNameChar
    if src.atChar '!' then some ('!' :: name ++ ['!'], src.next) else some ('!' :: name, src)
  else none

/-- Checks what stands behind a tag. -/
def endTag (flow : Bool) (tag : TokenKind) (src : Source) : Option (TokenKind × Source) :=
  if (flow && src.atChar ',') || blankOrEnd src.rest then some (tag, src) else none

/-- Reads a tag at its exclamation mark: between angle brackets as it is, or a handle and a suffix.
-/
def scanTag (flow : Bool) (src : Source) : Option (TokenKind × Source) :=
  match src.rest with
  | '!' :: '<' :: _ =>
    (scanTagChars true src.next.next).bind fun (chars, src) =>
      if src.atChar '>' then endTag flow (.tag "" (String.ofList chars)) src.next else none
  | _ => (scanHandle src).bind fun (handle, src) =>
    if 1 < handle.length && handle.getLast? = some '!' then
      (scanTagChars false src).bind fun (suffix, src) =>
        endTag flow (.tag (String.ofList handle) (String.ofList suffix)) src
    else
      (tagChars false (src.rest.length + 1) src []).bind fun (more, src) =>
        let suffix := handle.drop 1 ++ more
        if suffix = [] then endTag flow (.tag "" "!") src
        else endTag flow (.tag "!" (String.ofList suffix)) src

/-- Reads a number of a version: up to nine digits. -/
def scanVersionNumber (src : Source) : Option (Nat × Source) :=
  let (digits, src) := src.takeWhile isDigit
  if digits.length ≤ 9 then (readNat? 10 digits).map fun n => (n, src) else none

/-- Reads the value of a version directive. -/
def scanVersion (src : Source) : Option (TokenKind × Source) :=
  (scanVersionNumber (src.skipWhile isBlank)).bind fun (major, src) =>
    if src.atChar '.' then
      (scanVersionNumber src.next).map fun (minor, src) => (.versionDirective major minor, src)
    else none

/-- Reads the value of a tag directive: a handle and what it stands for. -/
def scanTagDirective (src : Source) : Option (TokenKind × Source) :=
  (scanHandle (src.skipWhile isBlank)).bind fun (handle, src) =>
    if handle ≠ ['!'] && (handle.length < 2 || handle.getLast? ≠ some '!') then none
    else match src.rest with
      | c :: _ =>
        if isBlank c then
          (scanTagChars true (src.skipWhile isBlank)).bind fun (start, src) =>
            if blankOrEnd src.rest then
              some (.tagDirective (String.ofList handle) (String.ofList start), src)
            else none
        else none
      | [] => none

/-- Reads a directive at its percent sign, up to the end of the line. -/
def scanDirective (src : Source) : Option (TokenKind × Source × Mark) :=
  let (name, src) := src.next.takeWhile isNameChar
  if !blankOrEnd src.rest then none
  else
    let value? := match String.ofList name with
      | "YAML" => scanVersion src
      | "TAG" => scanTagDirective src
      | _ => none
    value?.bind fun (directive, src) =>
      let stop := src.mark
      let src := (src.skipWhile isBlank).skipComment
      if breakOrEnd src.rest then some (directive, src.nextLine.1, stop) else none

end Source

end SchemaNodes.Yaml
