import SchemaNodes.Toml.Quoted

/-!
# TOML numbers, dates and words

The values that are written without quotes and brackets. What begins with a digit is a date or a
time where it looks like one, then a float, then an integer.
-/

namespace SchemaNodes.Toml

/-! ## Numbers -/

/-- Digits with single underscores between them, behind a digit; the underscores do not count. -/
def moreDigits (isDigit : Char → Bool) : List Char → Option (Parsed (List Char))
  | [] => some ([], [])
  | ['_'] => none
  | '_' :: c :: rest => if isDigit c then (moreDigits isDigit rest).map (Parsed.cons c) else none
  | c :: rest =>
    if isDigit c then (moreDigits isDigit rest).map (Parsed.cons c) else some ([], c :: rest)

/-- One or more digits with single underscores between them. -/
def digitRun (isDigit : Char → Bool) : List Char → Option (Parsed (List Char))
  | c :: rest => if isDigit c then (moreDigits isDigit rest).map (Parsed.cons c) else none
  | [] => none

/-- The digits of a decimal integer: a zero alone, or digits that begin with another. -/
def wholeDigits : List Char → Option (Parsed (List Char))
  | '0' :: rest => some (['0'], rest)
  | cs => digitRun isDigit cs

/-- An exponent, behind its letter. -/
def exponent (cs : List Char) : Option (Parsed Int) := do
  let (negative, cs) := splitSign cs
  let (digits, rest) ← digitRun isDigit cs
  let n ← digitsValue 10 0 digits
  some (if negative then -(n : Int) else n, rest)

/-- The float of digits before and behind the point, and an exponent: only below can it leave the
range of floats. -/
def float? (negative : Bool) (whole fraction : List Char) (exponent : Int) : Option Toml := do
  let digits ← digitsValue 10 0 (whole ++ fraction)
  match Binary64.round negative digits (exponent - fraction.length) with
  | .infinite false => none
  | x => some (.float x)

/-- The integer of digits in a base, within 64 bits. -/
def integer? (base : Nat) (negative : Bool) (digits : List Char) : Option Toml := do
  let n ← digitsValue base 0 digits
  let value : Int := if negative then -(n : Int) else n
  if -(twoTo 63 : Int) ≤ value && value < twoTo 63 then some (.integer value) else none

/-- The rest of a float behind the digits after its point. -/
def afterFraction (negative : Bool) (whole fraction rest : List Char) : Option (Parsed Toml) := do
  match rest with
  | 'e' :: rest | 'E' :: rest =>
    let (power, rest) ← exponent rest
    return (← float? negative whole fraction power, rest)
  | rest => return (← float? negative whole fraction 0, rest)

/-- A decimal number, behind its sign. -/
def decimal (negative : Bool) (cs : List Char) : Option (Parsed Toml) := do
  let (whole, rest) ← wholeDigits cs
  match rest with
  | '.' :: rest =>
    let (fraction, rest) ← digitRun isDigit rest
    afterFraction negative whole fraction rest
  | 'e' :: _ | 'E' :: _ => afterFraction negative whole [] rest
  | rest => return (← integer? 10 negative whole, rest)

/-- An integer in a base, behind the letter of the base. -/
def inBase (base : Nat) (cs : List Char) : Option (Parsed Toml) := do
  let (digits, rest) ← digitRun (fun c => (digitValue? base c).isSome) cs
  return (← integer? base false digits, rest)

/-- The names of the floats that have no digits. -/
def namedFloat (negative : Bool) : List Char → Option (Parsed Toml)
  | 'i' :: 'n' :: 'f' :: rest => some (.float (.infinite negative), rest)
  | 'n' :: 'a' :: 'n' :: rest => some (.float .nan, rest)
  | _ => none

/-- A number. -/
def number (cs : List Char) : Option (Parsed Toml) :=
  match cs with
  | '0' :: 'x' :: rest => inBase 16 rest
  | '0' :: 'o' :: rest => inBase 8 rest
  | '0' :: 'b' :: rest => inBase 2 rest
  | '+' :: rest => (decimal false rest).or (namedFloat false rest)
  | '-' :: rest => (decimal true rest).or (namedFloat true rest)
  | _ => decimal false cs

/-! ## Dates and times -/

/-- A number of exactly `count` digits between two bounds. -/
def fixedDigits (count low high : Nat) (cs : List Char) : Option (Parsed (List Char)) := do
  let digits := cs.take count
  let n ← digitsValue 10 0 digits
  if digits.length = count && low ≤ n && n ≤ high then some (digits, cs.drop count) else none

/-- A character that has to stand at the beginning. -/
def expect (c : Char) : List Char → Option (List Char)
  | d :: rest => if d = c then some rest else none
  | [] => none

/-- The number of days of a month. -/
def daysOf (year month : Nat) : Nat :=
  match month with
  | 2 => if year % 4 = 0 && (year % 100 ≠ 0 || year % 400 = 0) then 29 else 28
  | 4 | 6 | 9 | 11 => 30
  | _ => 31

/-- The value of decimal digits. -/
def decimalValue (digits : List Char) : Nat := (digitsValue 10 0 digits).getD 0

/-- A date. -/
def date (cs : List Char) : Option (Parsed (List Char)) := do
  let (year, rest) ← fixedDigits 4 0 9999 cs
  let (month, rest) ← fixedDigits 2 1 12 (← expect '-' rest)
  let days := daysOf (decimalValue year) (decimalValue month)
  let (day, rest) ← fixedDigits 2 1 days (← expect '-' rest)
  some (year ++ '-' :: month ++ '-' :: day, rest)

/-- A fraction of a second in normal text: nine digits at most, without zeros at the end. -/
def fractionText (digits : List Char) : List Char :=
  match ((digits.take 9).reverse.dropWhile (· = '0')).reverse with
  | [] => []
  | digits => '.' :: digits

/-- A fraction of a second, if there is one. -/
def secondFraction (cs : List Char) : List Char × List Char :=
  match cs with
  | '.' :: rest =>
    if (rest.takeWhile isDigit).isEmpty then ([], cs)
    else (fractionText (rest.takeWhile isDigit), rest.dropWhile isDigit)
  | _ => ([], cs)

/-- Hours and minutes. -/
def clock (cs : List Char) : Option (Parsed (List Char)) := do
  let (hour, rest) ← fixedDigits 2 0 23 cs
  let (minute, rest) ← fixedDigits 2 0 59 (← expect ':' rest)
  some (hour ++ ':' :: minute, rest)

/-- A time of the day. -/
def time (cs : List Char) : Option (Parsed (List Char)) := do
  let (minutes, rest) ← clock cs
  let (second, rest) ← fixedDigits 2 0 60 (← expect ':' rest)
  let (fraction, rest) := secondFraction rest
  some (minutes ++ ':' :: second ++ fraction, rest)

/-- The offset of a time from the universal time, if there is one; none at all has a plus sign. -/
def offset (cs : List Char) : Option (Parsed (List Char)) :=
  match cs with
  | 'Z' :: rest | 'z' :: rest => some (['Z'], rest)
  | '+' :: rest => (clock rest).map (Parsed.cons '+')
  | '-' :: rest => do
    let (minutes, rest) ← clock rest
    some ((if minutes = "00:00".toList then '+' else '-') :: minutes, rest)
  | _ => some ([], cs)

/-- Whether a date begins here: four digits and a dash. -/
def beginsDate (cs : List Char) : Bool :=
  (cs.take 4).length = 4 && (cs.take 4).all isDigit && (cs.drop 4).head? == some '-'

/-- Whether a time begins here: an hour and a colon. -/
def beginsTime (cs : List Char) : Bool :=
  (fixedDigits 2 0 23 cs).isSome && (cs.drop 2).head? == some ':'

/-- A date, and a time with its offset if one follows. -/
def dateTime (cs : List Char) : Option (Parsed (List Char)) := do
  let (day, rest) ← date cs
  let separated := match rest with
    | 'T' :: rest | 't' :: rest | ' ' :: rest => if beginsTime rest then some rest else none
    | _ => none
  match separated with
  | none => some (day, rest)
  | some rest =>
    let (hour, rest) ← time rest
    let (zone, rest) ← offset rest
    some (day ++ 'T' :: hour ++ zone, rest)

/-! ## Scalars -/

/-- The value of the text of a date or time. -/
def ofMoment (parsed : Parsed (List Char)) : Parsed Toml := (.moment parsed.text.1, parsed.2)

/-- A value without brackets. -/
def scalar (cs : List Char) : Option (Parsed Toml) :=
  match cs with
  | '"' :: _ | '\'' :: _ => (quotedString cs).map fun (text, rest) => (.string text, rest)
  | 't' :: 'r' :: 'u' :: 'e' :: rest => some (.boolean true, rest)
  | 'f' :: 'a' :: 'l' :: 's' :: 'e' :: rest => some (.boolean false, rest)
  | 'i' :: _ | 'n' :: _ => namedFloat false cs
  | _ =>
    if beginsDate cs then (dateTime cs).map ofMoment
    else if beginsTime cs then (time cs).map ofMoment
    else number cs

end SchemaNodes.Toml
