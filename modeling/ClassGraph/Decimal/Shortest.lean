import ClassGraph.Decimal.Exact

/-!
# The fewest digits that read back

A decimal reads back as a double when it lies in the interval of reals that round to it; the ends
belong to the interval when the mantissa is even. For one digit, two digits, and so on up to
seventeen, the two neighbours of the value on that decimal grid are tried; the first grid with a hit
wins, and of two hits the nearer one, or the even one of two equally near.
-/

set_option autoImplicit false

namespace ClassGraph.Decimal

/-- The number `digits * 10 ^ exponent`. -/
structure Digits where
  digits : Nat
  exponent : Int
deriving DecidableEq, Repr

/-- How often `v` has to be multiplied by ten to reach one, at most `fuel` times. -/
def tensToOne (v : Fraction) : Nat → Nat
  | 0 => 0
  | fuel + 1 => if v.den ≤ v.num then 0 else tensToOne ⟨v.num * 10, v.den⟩ fuel + 1

/-- The power of ten of the first digit of a positive fraction. -/
def leadingExponent (v : Fraction) : Int :=
  if v.den ≤ v.num then ((Nat.toDigits 10 (v.num / v.den)).length : Int) - 1
  else -((tensToOne v 400 : Nat) : Int)

/-- The interval of the reals that round to a double. -/
structure Rounding where
  low : Fraction
  value : Fraction
  high : Fraction
  closed : Bool

/-- The interval around `mantissa * 2 ^ exponent`. Below a power of two the doubles are twice as dense. -/
def Binary.rounding (b : Binary) : Rounding :=
  let below := if b.mantissa = Binary.hiddenBit ∧ -1074 < b.exponent then 1 else 2
  { low := Fraction.scaled (4 * b.mantissa - below) 2 (b.exponent - 2)
    value := Fraction.scaled (4 * b.mantissa) 2 (b.exponent - 2)
    high := Fraction.scaled (4 * b.mantissa + 2) 2 (b.exponent - 2)
    closed := b.mantissa % 2 == 0 }

/-- Does the fraction read back as the double of the interval? -/
def Rounding.holds (r : Rounding) (a : Fraction) : Bool :=
  if r.closed then !a.lt r.low && !r.high.lt a else r.low.lt a && a.lt r.high

/-- The distance of two fractions over the product of their denominators. -/
def distance (a b : Fraction) : Nat :=
  let x := a.num * b.den
  let y := b.num * a.den
  (x - y) + (y - x)

/-- The number of the grid with last digit `10 ^ exponent` that reads back, if there is one. -/
def Rounding.onGrid? (r : Rounding) (exponent : Int) : Option Nat :=
  let unit := Fraction.scaled 1 10 exponent
  let low := (r.value.num * unit.den) / (r.value.den * unit.num)
  let lowAt := Fraction.scaled low 10 exponent
  let highAt := Fraction.scaled (low + 1) 10 exponent
  match r.holds lowAt, r.holds highAt with
  | true, true =>
    let down := distance r.value lowAt
    let up := distance r.value highAt
    if down < up then some low
    else if up < down then some (low + 1)
    else some (low + low % 2)
  | true, false => some low
  | false, true => some (low + 1)
  | false, false => none

/-- Tries `count` digits, then more, at most `fuel` times. -/
def searchGrids (r : Rounding) (leading : Int) : Nat → Nat → Digits
  | 0, count =>
    let exponent := leading - ((count : Int) - 1)
    ⟨(Fraction.mk (r.value.num * (Fraction.scaled 1 10 exponent).den)
        (r.value.den * (Fraction.scaled 1 10 exponent).num)).round, exponent⟩
  | fuel + 1, count =>
    let exponent := leading - ((count : Int) - 1)
    match r.onGrid? exponent with
    | some n => ⟨n, exponent⟩
    | none => searchGrids r leading fuel (count + 1)

/-- Takes zeros off the end of the digits, at most `fuel` of them. -/
def Digits.strip (d : Digits) : Nat → Digits
  | 0 => d
  | fuel + 1 =>
    if d.digits ≠ 0 ∧ d.digits % 10 = 0 then Digits.strip ⟨d.digits / 10, d.exponent + 1⟩ fuel else d

/-- The fewest digits that read back as the magnitude of a double that is not zero. -/
def shortest (b : Binary) : Digits :=
  (searchGrids b.rounding (leadingExponent b.magnitude) 17 1).strip 20

end ClassGraph.Decimal
