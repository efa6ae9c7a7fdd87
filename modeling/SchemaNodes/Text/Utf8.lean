/-!
# Reading bytes as UTF-8

Bytes are read as text whatever they are: where no character can be completed, the bytes that could
still have become one are together replaced by one replacement character.
-/

namespace SchemaNodes.Text

/-- The replacement character. -/
def replacement : Char := '\uFFFD'

/-- What must follow a first byte: the number of further bytes, and the bounds of the first of them;
the bounds of the others are always the same. -/
structure Continuation where
  count : Nat
  low : Nat
  high : Nat

/-- What must follow a first byte, if it begins a character of several bytes at all. -/
def continuation? (byte : Nat) : Option Continuation :=
  if byte < 0xC2 then none
  else if byte < 0xE0 then some ⟨1, 0x80, 0xBF⟩
  else if byte = 0xE0 then some ⟨2, 0xA0, 0xBF⟩
  else if byte = 0xED then some ⟨2, 0x80, 0x9F⟩
  else if byte < 0xF0 then some ⟨2, 0x80, 0xBF⟩
  else if byte = 0xF0 then some ⟨3, 0x90, 0xBF⟩
  else if byte < 0xF4 then some ⟨3, 0x80, 0xBF⟩
  else if byte = 0xF4 then some ⟨3, 0x80, 0x8F⟩
  else none

/-- Takes the further bytes of a character, whose bits so far are `code`: the bits of all of them,
unless one is out of bounds, and the bytes behind those taken. -/
def takeContinuation (low high : Nat) : (count code : Nat) → List UInt8 → Option Nat × List UInt8
  | 0, code, rest => (some code, rest)
  | _ + 1, _, [] => (none, [])
  | count + 1, code, byte :: rest =>
    if low ≤ byte.toNat && byte.toNat ≤ high then
      takeContinuation 0x80 0xBF count (code * 64 + byte.toNat % 64) rest
    else (none, byte :: rest)

/-- The first character of bytes, of which `byte` is the first, and the bytes behind it. -/
def firstChar (byte : Nat) (rest : List UInt8) : Char × List UInt8 :=
  if byte < 0x80 then (Char.ofNat byte, rest)
  else match continuation? byte with
    | none => (replacement, rest)
    | some ⟨count, low, high⟩ =>
      let bits := byte % (1 <<< (6 - count))
      let (code?, rest) := takeContinuation low high count bits rest
      ((code?.map Char.ofNat).getD replacement, rest)

/-- The characters of bytes, at most `fuel` of them. -/
def decodeBytes : (fuel : Nat) → List UInt8 → List Char
  | 0, _ | _, [] => []
  | fuel + 1, byte :: rest =>
    let (c, rest) := firstChar byte.toNat rest
    c :: decodeBytes fuel rest

/-- The bytes without the mark that may stand in front of a text. -/
def withoutMark : List UInt8 → List UInt8
  | 0xEF :: 0xBB :: 0xBF :: rest => rest
  | bytes => bytes

/-- The text of bytes. -/
def ofBytes (content : ByteArray) : String :=
  let bytes := withoutMark content.toList
  String.ofList (decodeBytes bytes.length bytes)

end SchemaNodes.Text
