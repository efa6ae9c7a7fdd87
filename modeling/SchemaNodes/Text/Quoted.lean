import SchemaNodes.Text.EscapeTable

/-!
# Quoted text in messages

A text inside double quotes, as messages show it: quotes and backslashes escaped, the usual short
forms for tab, line feed, carriage return and NUL, and the code point in braces for every character
that would not show as itself.
-/

namespace SchemaNodes.Text

/-- The digits of a number in base sixteen, at least one, most significant first. -/
def hexDigits (n : Nat) : List Char := Nat.toDigits 16 n

/-- Whether a character above ASCII shows as itself in quoted text. -/
def showsAsItself (c : Char) : Bool :=
  !escapedRanges.any fun (first, last) => first ≤ c.toNat && c.toNat ≤ last

/-- One character as it stands between quotes. -/
def quoteChar (c : Char) : List Char :=
  if c = '"' then ['\\', '"']
  else if c = '\\' then ['\\', '\\']
  else if c = '\t' then ['\\', 't']
  else if c = '\n' then ['\\', 'n']
  else if c = '\r' then ['\\', 'r']
  else if c = '\x00' then ['\\', '0']
  else if c.toNat < 0x20 || c.toNat == 0x7f || (c.toNat > 0x7f && !showsAsItself c) then
    ['\\', 'u', '\x7b'] ++ hexDigits c.toNat ++ ['\x7d']
  else [c]

/-- The text between double quotes. -/
def quoted (text : String) : String :=
  String.ofList ('"' :: text.toList.flatMap quoteChar ++ ['"'])

end SchemaNodes.Text
