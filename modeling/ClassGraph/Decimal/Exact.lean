import ClassGraph.Word

/-!
# Doubles as exact fractions

A finite double is `mantissa * 2 ^ exponent` with a sign. Everything that is printed of it is computed
from that fraction in natural numbers.
-/

set_option autoImplicit false

namespace ClassGraph.Decimal

/-- The sign and the exact magnitude `mantissa * 2 ^ exponent` of a finite double. -/
structure Binary where
  negative : Bool
  mantissa : Nat
  exponent : Int
deriving DecidableEq, Repr

/-- The value of the leading bit, `2 ^ 52`, which a double that is not too small has without storing it. -/
def Binary.hiddenBit : Nat := 4503599627370496

/-- The parts of a double, read off its 64 bits. -/
def Binary.ofFloat (x : Float) : Binary :=
  let bits : Nat := x.toBits.toNat
  let fraction : Nat := bits % Binary.hiddenBit
  let biased : Nat := bits / Binary.hiddenBit % 2048
  { negative := decide (Word.signedBound ≤ bits)
    mantissa := if biased = 0 then fraction else fraction + Binary.hiddenBit
    exponent := (if biased = 0 then 1 else (biased : Int)) - 1075 }

/-- A fraction of natural numbers; the denominator is not zero where one is made. -/
structure Fraction where
  num : Nat
  den : Nat
deriving DecidableEq, Repr

/-- `m * base ^ e` as a fraction. -/
def Fraction.scaled (m base : Nat) (e : Int) : Fraction :=
  if 0 ≤ e then ⟨m * Nat.pow base e.toNat, 1⟩ else ⟨m, Nat.pow base (-e).toNat⟩

/-- Is the first fraction smaller than the second? -/
def Fraction.lt (a b : Fraction) : Bool := a.num * b.den < b.num * a.den

/-- The natural number nearest to a fraction; of two equally near ones the even one. -/
def Fraction.round (a : Fraction) : Nat :=
  let low := a.num / a.den
  let twice := 2 * (a.num % a.den)
  if twice < a.den then low
  else if a.den < twice then low + 1
  else low + low % 2

/-- The magnitude of a double. -/
def Binary.magnitude (b : Binary) : Fraction := Fraction.scaled b.mantissa 2 b.exponent

end ClassGraph.Decimal
