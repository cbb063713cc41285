import ClassGraph.Decimal.Exact

/-!
# A fixed number of decimal places

The exact value is rounded to the given number of places, a half going to the even last digit.
-/

set_option autoImplicit false

namespace ClassGraph.Decimal

/-- The decimal digits of `n`, with zeros in front up to `width`. -/
def paddedDigits (width n : Nat) : List Char :=
  let ds := Nat.toDigits 10 n
  List.replicate (width - ds.length) '0' ++ ds

/-- The double with exactly `places` digits after the point (at least one). -/
def fixed (places : Nat) (x : Float) : String :=
  let b := Binary.ofFloat x
  let v := b.magnitude
  let n := (Fraction.mk (v.num * Nat.pow 10 places) v.den).round
  let text := Nat.toDigits 10 (n / Nat.pow 10 places) ++ '.' :: paddedDigits places (n % Nat.pow 10 places)
  String.ofList (if b.negative then '-' :: text else text)

end ClassGraph.Decimal
