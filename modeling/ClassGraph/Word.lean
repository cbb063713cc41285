/-!
# Checked 64-bit arithmetic

Counts are natural numbers below `2 ^ 64`. A sum or product that does not fit is an error, never a
wrapped number.
-/

set_option autoImplicit false

namespace ClassGraph

/-- The operation whose result did not fit into 64 bits. -/
inductive Overflow where
  | add
  | multiply
deriving DecidableEq, Repr

/-- What is said about a result that did not fit. -/
def Overflow.message : Overflow → String
  | .add => "attempt to add with overflow"
  | .multiply => "attempt to multiply with overflow"

namespace Word

/-- The number of 64-bit words; counts stay below it. -/
def bound : Nat := 18446744073709551616

/-- The number of 64-bit words that count as negative; integers stay below it. -/
def signedBound : Nat := 9223372036854775808

/-- The sum, if it fits. -/
def add (a b : Nat) : Except Overflow Nat :=
  if a + b < bound then .ok (a + b) else .error .add

/-- The product, if it fits. -/
def mul (a b : Nat) : Except Overflow Nat :=
  if a * b < bound then .ok (a * b) else .error .multiply

/-- The number as a signed integer of 64 bits, if it is one. -/
def toSigned? (n : Nat) : Option Int := if n < signedBound then some n else none

/-- The sum of some numbers, added from left to right, if every sum on the way fits. -/
def sum (ns : List Nat) : Except Overflow Nat := ns.foldlM add 0

theorem mul_eq_ok_iff {a b c : Nat} : mul a b = .ok c ↔ a * b < bound ∧ c = a * b := by
  unfold mul
  split
  · next h => simp [h, eq_comm]
  · next h => simp only [reduceCtorEq, h, false_and]

end Word

end ClassGraph
