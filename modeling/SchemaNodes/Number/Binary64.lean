/-!
# Binary64 numbers

The numbers that a double-precision field can hold, as data: a finite number is a sign, a
significand below `2 ^ 53` and a power of two. `Binary64.round` takes any decimal to the nearest of
them, a half to the even significand, so no operation here goes through machine arithmetic.
-/

namespace SchemaNodes

/-- A power of two. -/
def twoTo (n : Nat) : Nat := Nat.pow 2 n

/-- A power of ten. -/
def tenTo (n : Nat) : Nat := Nat.pow 10 n

/-- A double-precision number. -/
inductive Binary64 where
  /-- Not a number. -/
  | nan
  /-- Beyond every finite number. -/
  | infinite (negative : Bool)
  /-- The number `significand * 2 ^ exponent`, with a sign that zero has too. -/
  | finite (negative : Bool) (significand : Nat) (exponent : Int)
  deriving DecidableEq, Repr, Inhabited

namespace Binary64

/-- The least exponent of a finite number. -/
def minExponent : Int := -1074

/-- The greatest exponent of a finite number. -/
def maxExponent : Int := 971

/-- Zero with a sign. -/
def zero (negative : Bool) : Binary64 := .finite negative 0 minExponent

/-- The quotient of two naturals, to the nearest natural, a half to the even one. -/
def roundRatio (num den : Nat) : Nat :=
  let floor := num / den
  let twice := 2 * (num % den)
  if twice < den then floor
  else if twice = den then floor + floor % 2
  else floor + 1

/-- The ratio `num / den` of positive naturals, times `2 ^ -exponent`, as a ratio. -/
def scale (num den : Nat) (exponent : Int) : Nat × Nat :=
  if exponent < 0 then (num * twoTo exponent.natAbs, den) else (num, den * twoTo exponent.natAbs)

/-- The exponent at which `num / den` has a significand of 53 bits, or the least exponent where that
is below it. -/
def exponentOf (num den : Nat) : Int :=
  let guess : Int := (num.log2 : Int) - den.log2 - 52
  let (n, d) := scale num den guess
  max minExponent (if n / d < twoTo 52 then guess - 1 else guess)

/-- The nearest number to `num / den`, a half to the even significand. -/
def ofRatio (negative : Bool) (num den : Nat) : Binary64 :=
  if num = 0 then zero negative
  else
    let exponent := exponentOf num den
    let (n, d) := scale num den exponent
    let significand := roundRatio n d
    let (significand, exponent) :=
      if significand = twoTo 53 then (twoTo 52, exponent + 1) else (significand, exponent)
    if maxExponent < exponent then .infinite negative
    else .finite negative significand exponent

/-- The number of decimal digits of a natural, one for zero. -/
def decimalLength (n : Nat) : Nat := (Nat.toDigits 10 n).length

/-- The nearest number to `digits * 10 ^ exponent`. Beyond the range of the format the answer is
known from the size alone. -/
def round (negative : Bool) (digits : Nat) (exponent : Int) : Binary64 :=
  if digits = 0 then zero negative
  else
    let size := exponent + decimalLength digits
    if size > 310 then .infinite negative
    else if size < -330 then zero negative
    else if exponent < 0 then ofRatio negative digits (tenTo exponent.natAbs)
    else ofRatio negative (digits * tenTo exponent.natAbs) 1

/-- The nearest number to an integer. -/
def ofInt (n : Int) : Binary64 := ofRatio (n < 0) n.natAbs 1

/-- Whether the number is a zero of either sign. -/
def isZero : Binary64 → Bool
  | .finite _ significand _ => significand == 0
  | _ => false

/-- Whether the number is neither infinite nor undefined. -/
def isFinite : Binary64 → Bool
  | .finite .. => true
  | _ => false

/-- Numerical equality: zeros are equal whatever their signs, and an undefined number equals
nothing. -/
def same (a b : Binary64) : Bool :=
  match a, b with
  | .nan, _ => false
  | _, .nan => false
  | a, b => (a.isZero && b.isZero) || a == b

end Binary64

end SchemaNodes
