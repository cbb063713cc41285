import ClassGraph.Graph.Build
import ClassGraph.Measure.Coupling
import ClassGraph.Measure.Stats

/-!
# Reports

A report holds all that is measured of a stream of units under some options. Only arithmetic can
fail.
-/

set_option autoImplicit false

namespace ClassGraph

/-- What to measure: the coupling or not, the bound for the number of methods, and the scope. -/
structure Options where
  coupling : Bool
  threshold : Int
  scope : Scope
deriving DecidableEq, Repr

/-- All that is measured of a project. -/
structure Report where
  graph : CallGraph
  counters : Counters
  couplingEnabled : Bool
  coupling : Coupling
  topByMethods : List String
  topByAttributes : List String
  topByBoth : List String
  threshold : Int
  overThreshold : List String
  stats : Stats
  skipped : List SkippedUnit

/-- The report on a stream of units. -/
def Report.ofUnits (units : List SourceUnit) (options : Options) : Except Overflow Report := do
  let build ← Build.ofUnits options.scope units
  let coupling ← if options.coupling then Coupling.ofGraph build.graph else pure ∅
  let topByMethods ← Ranking.topTenth build.counters.methods
  let topByAttributes ← Ranking.topTenth build.counters.attributes
  let stats ← Stats.ofUnits options.scope units
  pure
    { graph := build.graph
      counters := build.counters
      couplingEnabled := options.coupling
      coupling := coupling
      topByMethods := topByMethods
      topByAttributes := topByAttributes
      topByBoth := Ranking.common topByMethods topByAttributes
      threshold := options.threshold
      overThreshold := Ranking.exceeding build.counters.methods options.threshold
      stats := stats
      skipped := build.skipped }

end ClassGraph
