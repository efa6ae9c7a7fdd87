import SchemaNodes.Number.Binary64

/-!
# Shortest decimals

The decimal with the fewest digits that reads back as a given binary64 number, and of those the one
nearest to it. The search goes through the decimal grids of one digit, two digits and so on, and on
each grid tests the two neighbours of the number for lying in the interval of reals that round to
it; seventeen digits always suffice.
-/

namespace SchemaNodes

/-- The decimal `digits * 10 ^ exponent`. -/
structure Decimal where
  /-- The digits, without a zero at the end unless they are zero. -/
  digits : Nat
  /-- The power of ten. -/
  exponent : Int
  deriving DecidableEq, Repr, Inhabited

namespace Decimal

/-- Drops zeros at the end of the digits, at most `fuel` of them. -/
def trim : Nat → Decimal → Decimal
  | 0, d => d
  | fuel + 1, d =>
    if d.digits ≠ 0 && d.digits % 10 == 0 then trim fuel ⟨d.digits / 10, d.exponent + 1⟩ else d

/-- The digits of the decimal as characters. -/
def digitChars (d : Decimal) : List Char := Nat.toDigits 10 d.digits

/-- The exponent of the leading digit. -/
def leading (d : Decimal) : Int := d.exponent + (d.digitChars.length : Int) - 1

end Decimal

namespace Binary64

/-- Four times a number and the ends of the interval that rounds to it, over a common power of two:
the significand's neighbours are half a unit away, below a power of two a quarter. -/
structure Interval where
  /-- Four times the number. -/
  middle : Nat
  /-- Four times the lower end. -/
  lower : Nat
  /-- Four times the upper end. -/
  upper : Nat
  /-- Whether the ends round to the number. -/
  closed : Bool

/-- The interval of the reals that round to `significand * 2 ^ exponent`. -/
def interval (significand : Nat) (exponent : Int) : Interval where
  middle := 4 * significand
  lower := 4 * significand - if significand = twoTo 52 && minExponent < exponent then 1 else 2
  upper := 4 * significand + 2
  closed := significand % 2 == 0

/-- Compares `a * 2 ^ e2 / 4` with `b * 10 ^ e10`. -/
def compareScaled (a : Nat) (e2 : Int) (b : Nat) (e10 : Int) : Ordering :=
  let left := a * twoTo e2.toNat * tenTo (-e10).toNat
  let right := 4 * b * tenTo e10.toNat * twoTo (-e2).toNat
  compare left right

/-- Whether `digits * 10 ^ e10` lies in the interval. -/
def Interval.holds (i : Interval) (e2 : Int) (digits : Nat) (e10 : Int) : Bool :=
  let fromBelow := compareScaled i.lower e2 digits e10
  let toAbove := compareScaled i.upper e2 digits e10
  (fromBelow == .lt || (i.closed && fromBelow == .eq)) &&
    (toAbove == .gt || (i.closed && toAbove == .eq))

/-- The greatest grid point `digits * 10 ^ e10` that is not above `significand * 2 ^ e2`. -/
def gridFloor (significand : Nat) (e2 : Int) (e10 : Int) : Nat :=
  (significand * twoTo e2.toNat * tenTo (-e10).toNat) / (tenTo e10.toNat * twoTo (-e2).toNat)

/-- Of the two neighbours of the number on the grid of `10 ^ e10`, the one that rounds to it; of two
the nearer, and at equal distance the even one. -/
def onGrid (significand : Nat) (e2 : Int) (e10 : Int) : Option Nat :=
  let i := interval significand e2
  let below := gridFloor significand e2 e10
  let above := below + 1
  match i.holds e2 below e10 && below != 0, i.holds e2 above e10 with
  | true, true =>
    match compareScaled (2 * i.middle) e2 (below + above) e10 with
    | .lt => some below
    | .gt => some above
    | .eq => some (if below % 2 == 0 then below else above)
  | true, false => some below
  | false, true => some above
  | false, false => none

/-- The exponent of the leading decimal digit of a positive number: an estimate from its bits, put
right by comparing. -/
def leadingDigit (significand : Nat) (e2 : Int) : Int :=
  let guess := ((e2 + significand.log2) * 30103).fdiv 100000
  if compareScaled (4 * significand) e2 1 (guess + 1) != .lt then guess + 1
  else if compareScaled (4 * significand) e2 1 guess == .lt then guess - 1
  else guess

/-- The first grid with a hit, from `count` digits on, with `fuel` grids left to try. -/
def searchGrids (significand : Nat) (e2 : Int) (leading : Int) : Nat → Nat → Decimal
  | 0, count => ⟨gridFloor significand e2 (leading - count), leading - count⟩
  | fuel + 1, count =>
    let e10 := leading - count
    match onGrid significand e2 e10 with
    | some digits => ⟨digits, e10⟩
    | none => searchGrids significand e2 leading fuel (count + 1)

/-- The shortest decimal that reads back as `significand * 2 ^ exponent`, and of those the nearest.
-/
def shortest (significand : Nat) (exponent : Int) : Decimal :=
  if significand = 0 then ⟨0, 0⟩
  else (searchGrids significand exponent (leadingDigit significand exponent) 17 0).trim 20

end Binary64

end SchemaNodes
