import ClassGraph.Graph.CallGraph
import ClassGraph.Text.Case
import ClassGraph.Text.Pieces
import ClassGraph.Word

/-!
# Coupling between classes

A call couples the class it is made in to the class it goes to, unless both are the same class. A
receiver may be written in another letter case or carry the extension of a source file; neither
makes it another class. The coupling of two classes is their share of all calls between classes.
-/

set_option autoImplicit false

namespace ClassGraph

/-- The extensions of source files. -/
def sourceExtensions : List String := ["java", "rs", "py", "kt", "scala", "cs", "go", "js", "ts"]

/-- The name in lower case, without the extension of a source file. -/
def normalizedLabel (label : String) : String :=
  let lower := Text.lowercase label
  match Text.cutLast '.' lower.toList with
  | some (stem, extension) =>
    if !stem.isEmpty && sourceExtensions.contains (String.ofList extension) then String.ofList stem
    else lower
  | none => lower

/-- Does a call made in `source` on `receiver` leave the class? -/
def isInterClass (source receiver : String) : Bool :=
  normalizedLabel receiver ≠ Text.lowercase source

/-- The number of calls between classes, and how many there are from each class to each other. -/
structure Coupling where
  total : Nat
  counts : Table (Table Nat)
deriving DecidableEq

/-- One pair of classes with its share of the calls. -/
structure CouplingRow where
  source : String
  target : String
  value : Float

namespace Coupling

instance : EmptyCollection Coupling := ⟨⟨0, ∅⟩⟩
instance : Inhabited Coupling := ⟨∅⟩

/-- The calls that leave their class, in order. -/
def crossings (g : CallGraph) : List Site :=
  g.sites.filter fun s => isInterClass s.owner s.call.receiver

/-- Counts one more call between two classes. -/
def count (t : Table (Table Nat)) (s : Site) : Table (Table Nat) :=
  t.upsert s.owner fun row =>
    (row.getD ∅).upsert s.call.receiver fun n => n.getD 0 + 1

/-- The coupling of a graph. No count can exceed the total, which is checked. -/
def ofGraph (g : CallGraph) : Except Overflow Coupling := do
  let total ← Word.sum ((crossings g).map fun _ => 1)
  pure ⟨total, (crossings g).foldl count ∅⟩

/-- The share of `n` calls. -/
def share (c : Coupling) (n : Nat) : Float := n.toFloat / c.total.toFloat

/-- Is there no call between classes? -/
def isEmpty (c : Coupling) : Bool := c.counts.isEmpty

/-- The share of the calls from `source` to `target`. -/
def between (c : Coupling) (source target : String) : Float :=
  match (c.counts.find? source).bind fun row => row.find? target with
  | some n => c.share n
  | none => 0

/-- All pairs, by source and then by target. -/
def matrix (c : Coupling) : List CouplingRow :=
  c.counts.entries.flatMap fun (source, row) =>
    row.entries.map fun (target, n) => ⟨source, target, c.share n⟩

/-- The sum of some shares, from minus zero on, from left to right. -/
def addUp (values : List Float) : Float := values.foldl (· + ·) (-0.0)

/-- The sum of all shares. -/
def sum (c : Coupling) : Float := addUp (c.matrix.map CouplingRow.value)

/-- The mean share of a pair. -/
def mean (c : Coupling) : Float :=
  if c.matrix.isEmpty then 0 else c.sum / c.matrix.length.toFloat

end Coupling

end ClassGraph
