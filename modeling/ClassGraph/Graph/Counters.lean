import ClassGraph.Table
import ClassGraph.Word

/-!
# Counters per class

How many methods and attributes each class declares, over all its declarations.
-/

set_option autoImplicit false

namespace ClassGraph

/-- Counts of methods and of attributes by class. -/
structure Counters where
  methods : Table Nat
  attributes : Table Nat
deriving DecidableEq

namespace Counters

instance : EmptyCollection Counters := ⟨⟨∅, ∅⟩⟩
instance : Inhabited Counters := ⟨∅⟩

/-- Adds `n` to the count under `name`, from zero if there is none. -/
def bump (t : Table Nat) (name : String) (n : Nat) : Except Overflow (Table Nat) := do
  let total ← Word.add ((t.find? name).getD 0) n
  pure (t.insert name total)

/-- Makes sure that the class is counted. -/
def register (k : Counters) (name : String) : Counters :=
  ⟨k.methods.ensure name 0, k.attributes.ensure name 0⟩

/-- Adds methods to a class. -/
def addMethods (k : Counters) (name : String) (n : Nat) : Except Overflow Counters := do
  pure { k with methods := ← bump k.methods name n }

/-- Adds attributes to a class. -/
def addAttributes (k : Counters) (name : String) (n : Nat) : Except Overflow Counters := do
  pure { k with attributes := ← bump k.attributes name n }

/-- Adds every count of the entries. -/
def bumpAll (t : Table Nat) : List (String × Nat) → Except Overflow (Table Nat)
  | [] => .ok t
  | (name, n) :: rest => do bumpAll (← bump t name n) rest

/-- Adds the counts of `other`. -/
def merge (k other : Counters) : Except Overflow Counters := do
  let methods ← bumpAll k.methods other.methods.entries
  let attributes ← bumpAll k.attributes other.attributes.entries
  pure ⟨methods, attributes⟩

end Counters

end ClassGraph
