import ClassGraph.Table
import ClassGraph.Word

/-!
# Rankings

The top of a metric is a share of its names, rounded up and at least one, in descending order of
value; names of equal value keep the order of the table.
-/

set_option autoImplicit false

namespace ClassGraph.Ranking

/-- How many of `n` names the share of `percent` is, at least one. -/
def limit (n percent : Nat) : Except Overflow Nat := do
  let scaled ← Word.mul n percent
  pure (max 1 ((scaled + 99) / 100))

/-- The names in descending order of value. -/
def ranked (metric : Table Nat) : List String :=
  (metric.entries.mergeSort fun a b => b.2 ≤ a.2).map Prod.fst

/-- The names in the top `percent` of the metric. -/
def topPercent (metric : Table Nat) (percent : Nat) : Except Overflow (List String) :=
  if metric.isEmpty then .ok []
  else do
    let n ← limit metric.size percent
    pure ((ranked metric).take n)

/-- The share of names that counts as hot. -/
def hotPercent : Nat := 10

/-- The names in the top tenth of the metric. -/
def topTenth (metric : Table Nat) : Except Overflow (List String) := topPercent metric hotPercent

/-- The names that are in both lists, once each, in the order of the first. -/
def common (first second : List String) : List String :=
  (first.filter fun name => second.contains name).eraseDups

/-- Does the value exceed the bound? A value that is no signed integer is above all of them. -/
def exceeds (bound : Int) (value : Nat) : Bool :=
  match Word.toSigned? value with
  | some v => bound < v
  | none => true

/-- The names whose value exceeds the bound. -/
def exceeding (metric : Table Nat) (bound : Int) : List String :=
  (metric.entries.filter fun e => exceeds bound e.2).map Prod.fst

end ClassGraph.Ranking
