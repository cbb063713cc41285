import ClassGraph.Graph.Build
import ClassGraph.Measure.Ranking
import ClassGraph.Text.Pieces

/-!
# Statistics of a project

Counts and averages over the units that were read and the types in scope, the packages with all
their parents, and for every class its longest methods. The length of a method is that of its last
declaration.
-/

set_option autoImplicit false

namespace ClassGraph

/-! ## Packages -/

/-- The segments of a package path, divided by dots or double colons. -/
def packageSegments (path : String) : List String :=
  ((Text.splitAt '.' (Text.colonsToDots path.toList)).filter (!·.isEmpty)).map String.ofList

/-- The paths of all beginnings of a path, given by its segments, behind `before`. -/
def packagePrefixes (before : String) : List String → List String
  | [] => []
  | segment :: rest =>
    let path := if before = "" then segment else before ++ "::" ++ segment
    path :: packagePrefixes path rest

/-- The package of a unit with all its parents. -/
def packagesOf (package : Option String) : List String :=
  match nonBlank? package with
  | none => ["default"]
  | some path => packagePrefixes "" (packageSegments path)

/-! ## Statistics -/

/-- What is measured of a whole project. -/
structure Stats where
  units : Nat
  skipped : Nat
  classes : Nat
  interfaces : Nat
  methods : Nat
  attributes : Nat
  lines : Nat
  packages : Nat
  methodsPerClass : Float
  attributesPerClass : Float
  linesPerMethod : Float
  maxParameters : Nat
  longestMethods : Table (List String)

namespace Stats

/-- A quotient of counts, zero if there is nothing to divide by. -/
def ratio (numerator denominator : Nat) : Float :=
  if denominator = 0 then 0 else numerator.toFloat / denominator.toFloat

/-- The types in scope of the units that were read. -/
def typesInScope (scope : Scope) (units : List SourceUnit) : List TypeDecl :=
  (readUnits units).flatMap fun u => u.inScope scope

/-- Which names are those of interfaces: a name is if one of its declarations is. -/
def kinds (ts : List TypeDecl) : Table Bool :=
  ts.foldl (fun t d => t.upsert d.name fun old => old.getD false || d.isInterface) ∅

/-- The lengths of the methods of every class. -/
def methodLines (ts : List TypeDecl) : Table (Table Nat) :=
  ts.foldl
    (fun t d => t.upsert d.name fun old =>
      d.methods.foldl (fun lines m => lines.insert m.name m.lines) (old.getD ∅)) ∅

/-- The statistics of a stream of units. -/
def ofUnits (scope : Scope) (units : List SourceUnit) : Except Overflow Stats := do
  let read := readUnits units
  let types := typesInScope scope units
  let methods := types.flatMap TypeDecl.methods
  let skippedCount ← Word.sum ((skippedUnits units).map fun _ => 1)
  let unitCount ← Word.sum (read.map fun _ => 1)
  let lines ← Word.sum (read.map CompilationUnit.lines)
  let attributes ← Word.sum (types.map fun t => t.fields.length)
  let methodCount ← Word.sum (methods.map fun _ => 1)
  let methodLineCount ← Word.sum (methods.map MethodDecl.lines)
  let kinds := kinds types
  let interfaces := (kinds.values.filter id).length
  let longest ← (methodLines types).traverse Ranking.topTenth
  pure
    { units := unitCount
      skipped := skippedCount
      classes := kinds.size - interfaces
      interfaces := interfaces
      methods := methodCount
      attributes := attributes
      lines := lines
      packages := (read.flatMap fun u => packagesOf u.package).eraseDups.length
      methodsPerClass := ratio methodCount kinds.size
      attributesPerClass := ratio attributes kinds.size
      linesPerMethod := ratio methodLineCount methodCount
      maxParameters := (methods.map MethodDecl.parameters).foldl max 0
      longestMethods := longest }

end Stats

end ClassGraph
