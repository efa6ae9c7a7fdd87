import SchemaNodes.Number.Shortest

/-!
# Numbers as text

Decimals written positionally or with an exponent, binary64 numbers in plain positional form, and
the readers for decimal numbers and integers as they stand in settings and documents.
-/

namespace SchemaNodes

namespace Decimal

/-- The decimal without an exponent; a whole number has no point. -/
def positional (d : Decimal) : List Char :=
  let digits := d.digitChars
  if 0 ≤ d.exponent then
    if d.digits = 0 then digits else digits ++ List.replicate d.exponent.toNat '0'
  else
    let places := d.exponent.natAbs
    if digits.length ≤ places then
      '0' :: '.' :: List.replicate (places - digits.length) '0' ++ digits
    else
      digits.take (digits.length - places) ++ '.' :: digits.drop (digits.length - places)

/-- The decimal with one digit before the point, and its exponent with a sign. -/
def scientific (d : Decimal) : List Char :=
  let mantissa := match d.digitChars with
    | [] => []
    | [first] => [first]
    | first :: rest => first :: '.' :: rest
  let sign := if d.leading < 0 then '-' else '+'
  mantissa ++ ['e', sign] ++ Nat.toDigits 10 d.leading.natAbs

end Decimal

namespace Binary64

/-- The sign of a number as it is written. -/
def signChars (negative : Bool) : List Char := if negative then ['-'] else []

/-- The number without an exponent, in the fewest digits that read back. -/
def plain : Binary64 → String
  | .nan => "NaN"
  | .infinite negative => String.ofList (signChars negative ++ ['i', 'n', 'f'])
  | .finite negative significand exponent =>
    String.ofList (signChars negative ++ (shortest significand exponent).positional)

/-- The plain form, with a point even in a whole number. -/
def pointed (x : Binary64) : String :=
  match x with
  | .finite .. => if x.plain.toList.contains '.' then x.plain else x.plain ++ ".0"
  | x => x.plain

end Binary64

/-! ## Readers -/

/-- The value of a character as a digit in the base, if it is one. -/
def digitValue? (base : Nat) (c : Char) : Option Nat :=
  let value :=
    if '0' ≤ c && c ≤ '9' then some (c.toNat - '0'.toNat)
    else if 'a' ≤ c && c ≤ 'z' then some (c.toNat - 'a'.toNat + 10)
    else if 'A' ≤ c && c ≤ 'Z' then some (c.toNat - 'A'.toNat + 10)
    else none
  value.filter (· < base)

/-- The value of digits in the base, continuing from `acc`. -/
def digitsValue (base : Nat) (acc : Nat) : List Char → Option Nat
  | [] => some acc
  | c :: rest => (digitValue? base c).bind fun d => digitsValue base (acc * base + d) rest

/-- A natural number in the base: one or more digits, after a plus sign or none. -/
def readNat? (base : Nat) : List Char → Option Nat
  | [] => none
  | '+' :: c :: rest => digitsValue base 0 (c :: rest)
  | c :: rest => digitsValue base 0 (c :: rest)

/-- An integer in the base: one or more digits, after a sign or none. -/
def readInt? (base : Nat) : List Char → Option Int
  | '-' :: c :: rest => (digitsValue base 0 (c :: rest)).map fun n => -(n : Int)
  | cs => (readNat? base cs).map fun n => (n : Int)

/-- An integer that fits in `bits` bits, sign included. -/
def readSigned? (bits : Nat) (base : Nat) (cs : List Char) : Option Int :=
  (readInt? base cs).filter fun n => -(twoTo (bits - 1) : Int) ≤ n && n < twoTo (bits - 1)

/-- Whether the character is a decimal digit. -/
def isDigit (c : Char) : Bool := '0' ≤ c && c ≤ '9'

/-- The exponent that stands at the end of a decimal number: empty text, or `e` and an integer. -/
def readExponent? : List Char → Option Int
  | [] => some 0
  | 'e' :: rest | 'E' :: rest => readInt? 10 rest
  | _ => none

/-- A decimal number as digits and a power of ten: digits, a point among or beside them, and an
exponent. -/
def readDecimal? (cs : List Char) : Option Decimal :=
  let whole := cs.takeWhile isDigit
  let rest := cs.dropWhile isDigit
  let (fraction, tail) := match rest with
    | '.' :: more => (more.takeWhile isDigit, more.dropWhile isDigit)
    | rest => ([], rest)
  if whole.isEmpty && fraction.isEmpty then none
  else (readExponent? tail).bind fun exponent =>
    (digitsValue 10 0 (whole ++ fraction)).map fun digits =>
      ⟨digits, exponent - fraction.length⟩

/-- A sign in front of a text, and the rest. -/
def splitSign : List Char → Bool × List Char
  | '-' :: rest => (true, rest)
  | '+' :: rest => (false, rest)
  | cs => (false, cs)

/-- A binary64 number from text: a decimal with a sign or none, or the name of an infinity or of the
undefined number in any case. -/
def Binary64.ofText? (cs : List Char) : Option Binary64 :=
  let (negative, body) := splitSign cs
  match String.ofList (body.map Char.toLower) with
  | "inf" | "infinity" => some (.infinite negative)
  | "nan" => some .nan
  | _ => (readDecimal? body).map fun d => .round negative d.digits d.exponent

end SchemaNodes
