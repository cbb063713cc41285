import ClassGraph.Graph.CallGraph
import ClassGraph.Graph.Counters
import ClassGraph.Graph.Receiver

/-!
# Building the graph and the counters

Every unit gives a fragment: the graph and the counters of its own types. Fragments are merged in
the order of the units. The scope says which types take part.
-/

set_option autoImplicit false

namespace ClassGraph

/-- Which types take part: all of the project, or those with one name. -/
inductive Scope where
  | project
  | only (name : String)
deriving DecidableEq, Repr

/-- Does the type take part? -/
def Scope.includes : Scope → String → Bool
  | .project, _ => true
  | .only name, other => name == other

/-- The types of a unit that take part. -/
def CompilationUnit.inScope (u : CompilationUnit) (scope : Scope) : List TypeDecl :=
  u.types.filter fun t => scope.includes t.name

namespace CallGraph

/-- Declares a method and adds its calls with their receivers. -/
def addDeclaredMethod (name : String) (g : CallGraph) (m : MethodDecl) : CallGraph :=
  m.invocations.foldl (fun g i => g.addCall name m.name ⟨i.callee, i.receiver name⟩)
    (g.addMethod name m.name)

/-- Adds a type with its methods. -/
def addType (g : CallGraph) (t : TypeDecl) : CallGraph :=
  t.methods.foldl (addDeclaredMethod t.name) (g.addClass t.name)

/-- The graph of some types. -/
def ofTypes (ts : List TypeDecl) : CallGraph := ts.foldl addType ∅

/-- The graph of a stream of units: the fragments of the units, merged in order. -/
def ofUnits (scope : Scope) (units : List SourceUnit) : CallGraph :=
  (readUnits units).foldl (fun g u => g.merge (ofTypes (u.inScope scope))) ∅

end CallGraph

namespace Counters

/-- Counts the methods and attributes of a type. -/
def addType (k : Counters) (t : TypeDecl) : Except Overflow Counters := do
  let k := k.register t.name
  let k ← k.addMethods t.name t.methods.length
  k.addAttributes t.name t.fields.length

/-- The counters of some types. -/
def ofTypes (ts : List TypeDecl) : Except Overflow Counters := ts.foldlM addType ∅

/-- The counters of a stream of units: the fragments of the units, merged in order. -/
def ofUnits (scope : Scope) (units : List SourceUnit) : Except Overflow Counters :=
  (readUnits units).foldlM (fun k u => do k.merge (← ofTypes (u.inScope scope))) ∅

end Counters

/-- The graph, the counters and the units that were left out. -/
structure Build where
  graph : CallGraph
  counters : Counters
  skipped : List SkippedUnit

/-- The fragment of one unit. -/
def Build.ofUnit (scope : Scope) (u : CompilationUnit) : Except Overflow Build := do
  let counters ← Counters.ofTypes (u.inScope scope)
  pure ⟨CallGraph.ofTypes (u.inScope scope), counters, []⟩

/-- The graph and the counters of a stream of units. -/
def Build.ofUnits (scope : Scope) (units : List SourceUnit) : Except Overflow Build := do
  let counters ← Counters.ofUnits scope units
  pure ⟨CallGraph.ofUnits scope units, counters, skippedUnits units⟩

end ClassGraph
