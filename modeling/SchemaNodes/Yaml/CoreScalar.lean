import SchemaNodes.Json.Reader
import SchemaNodes.Yaml.Scalar

/-!
# The values of YAML scalars

What a plain scalar stands for: nothing, a truth value, an integer, a number, or else its own text.
A quoted scalar is a text. A tag can ask for one of these kinds, and the scalar must then have the
form of that kind.
-/

namespace SchemaNodes.Yaml

/-- The value of a scalar. -/
inductive CoreValue where
  | unit
  | bool (value : Bool)
  /-- An integer of 64 bits, signed or unsigned. -/
  | integer (value : Int)
  /-- An integer that takes more than 64 bits, and 128 at the most. -/
  | wide (value : Int)
  | float (value : Binary64)
  | text (value : String)
  deriving DecidableEq, Repr, Inhabited

namespace CoreValue

/-- How a message names an integer that takes more than 64 bits. -/
def describeWide (n : Int) : String :=
  if n < 0 then s!"integer `{n}` as i128" else s!"integer `{n}` as u128"

/-- How a message names a value. -/
def describe : CoreValue → String
  | .unit => "unit value"
  | .bool true => "boolean `true`"
  | .bool false => "boolean `false`"
  | .integer n => s!"integer `{n}`"
  | .wide n => describeWide n
  | .float x => s!"floating point `{x.pointed}`"
  | .text value => s!"string {Text.quoted value}"

/-- The JSON value; an integer that takes more than 64 bits has none. -/
def toJson? : CoreValue → Option Json
  | .unit => some .null
  | .bool value => some (.bool value)
  | .integer n => some (.ofInt n)
  | .wide _ => none
  | .float x => some (.ofBinary64 x)
  | .text value => some (.string value)

/-- Whether a text names nothing. -/
def isNull (text : String) : Bool :=
  text == "~" || text == "null" || text == "Null" || text == "NULL"

/-- The truth value that a text names. -/
def bool? : String → Option Bool
  | "true" | "True" | "TRUE" => some true
  | "false" | "False" | "FALSE" => some false
  | _ => none

/-- Whether a text consists of digits behind a sign or none, of which the first is a zero that is
not the last: a text like that is no number. -/
def isPadded (chars : List Char) : Bool :=
  let digits := match chars with
    | '-' :: rest | '+' :: rest => rest
    | chars => chars
  1 < digits.length && digits.head? == some '0' && digits.all isDigit

/-- The base that a mark in front of digits stands for, and the digits. -/
def basePrefix? : List Char → Option (Nat × List Char)
  | '0' :: 'x' :: rest => some (16, rest)
  | '0' :: 'o' :: rest => some (8, rest)
  | '0' :: 'b' :: rest => some (2, rest)
  | _ => none

/-- A natural number below a limit, from a text without sign. -/
def naturalBelow? (limit : Nat) (base : Nat) : List Char → Option Nat
  | [] => none
  | chars => (digitsValue base 0 chars).filter (· < limit)

/-- A natural number below a limit, in base ten or with the mark of another base, behind a plus sign
or none. -/
def unsigned? (limit : Nat) (chars : List Char) : Option Nat :=
  let body := match chars with
    | '+' :: rest => rest
    | chars => chars
  match (basePrefix? body).bind fun (base, digits) => naturalBelow? limit base digits with
  | some n => some n
  | none => if isPadded chars then none else naturalBelow? limit 10 body

/-- A negative integer down to a limit, in base ten or with the mark of another base. -/
def negative? (limit : Nat) : List Char → Option Int
  | '-' :: body =>
    let value? := match (basePrefix? body).bind fun (base, digits) =>
        naturalBelow? (limit + 1) base digits with
      | some n => some n
      | none => if isPadded body then none else naturalBelow? (limit + 1) 10 body
    value?.map fun n => -(n : Int)
  | _ => none

/-- The integer that a text names. -/
def integer? (chars : List Char) : Option CoreValue :=
  match unsigned? (twoTo 64) chars, negative? (twoTo 63) chars with
  | some n, _ => some (.integer n)
  | none, some n => some (.integer n)
  | none, none =>
    match unsigned? (twoTo 128) chars, negative? (twoTo 127) chars with
    | some n, _ => some (.wide n)
    | none, some n => some (.wide n)
    | none, none => none

/-- The number that a text names: a decimal, or an infinity or the undefined number behind a point.
-/
def float? (chars : List Char) : Option Binary64 :=
  let body := match chars with
    | '+' :: rest => rest
    | chars => chars
  let signedTwice := match chars with
    | '+' :: '+' :: _ | '+' :: '-' :: _ => true
    | _ => false
  if signedTwice then none
  else
    let named := ["inf", "Inf", "INF"].map fun name => '.' :: name.toList
    if named.contains body then some (.infinite false)
    else if (named.map ('-' :: ·)).contains chars then some (.infinite true)
    else if ([".nan", ".NaN", ".NAN"].map String.toList).contains chars then some .nan
    else (Binary64.ofText? body).filter Binary64.isFinite

/-- The value of a plain scalar without tag. -/
def ofPlain (text : String) : CoreValue :=
  let chars := text.toList
  if chars = [] || isNull text then .unit
  else match bool? text, integer? chars with
    | some value, _ => .bool value
    | none, some value => value
    | none, none =>
      if isPadded chars then .text text
      else match float? chars with
        | some x => .float x
        | none => .text text

/-- The complaint about a scalar that has not the form its tag asks for. -/
def badForm (text expected : String) : String :=
  s!"invalid value: string {Text.quoted text}, expected {expected}"

/-- The value of a scalar, or a complaint about its form. -/
def ofScalar (tag? : Option String) (text : String) (style : ScalarStyle) :
    Except String CoreValue :=
  match tag? with
  | none => .ok (if style = .plain then ofPlain text else .text text)
  | some "tag:yaml.org,2002:bool" => match bool? text with
    | some value => .ok (.bool value)
    | none => .error (badForm text "a boolean")
  | some "tag:yaml.org,2002:int" => match integer? text.toList with
    | some value => .ok value
    | none => .error (badForm text "an integer")
  | some "tag:yaml.org,2002:float" => match float? text.toList with
    | some x => .ok (.float x)
    | none => .error (badForm text "a float")
  | some "tag:yaml.org,2002:null" =>
    if isNull text then .ok .unit else .error (badForm text "null")
  | some tag =>
    .ok (if tag.toList.head? = some '!' && style = .plain then ofPlain text else .text text)

end CoreValue

end SchemaNodes.Yaml
