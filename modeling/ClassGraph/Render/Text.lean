import ClassGraph.Decimal.Fixed
import ClassGraph.Json.Writer
import ClassGraph.Measure.Report

/-!
# Reports as plain text

A summary for readers: statistics, rankings, the call graph, the coupling if it was measured, and
the units that were skipped. Every line ends with a newline.
-/

set_option autoImplicit false

namespace ClassGraph.Summary

/-- The lines of the statistics. -/
def statistics (s : Stats) : List String :=
  ["== Project statistics ==",
   "Units analyzed:           " ++ toString s.units,
   "Units skipped:            " ++ toString s.skipped,
   "Classes:                  " ++ toString s.classes,
   "Interfaces:               " ++ toString s.interfaces,
   "Methods:                  " ++ toString s.methods,
   "Attributes:               " ++ toString s.attributes,
   "Lines:                    " ++ toString s.lines,
   "Packages:                 " ++ toString s.packages,
   "Avg methods per class:    " ++ Decimal.fixed 2 s.methodsPerClass,
   "Avg attributes per class: " ++ Decimal.fixed 2 s.attributesPerClass,
   "Avg lines per method:     " ++ Decimal.fixed 2 s.linesPerMethod,
   "Max parameters:           " ++ toString s.maxParameters,
   ""]

/-- The lines of the rankings. -/
def rankings (r : Report) : List String :=
  ["== Rankings ==",
   "Top 10% by methods:       " ++ Text.joinWith ", " r.topByMethods,
   "Top 10% by attributes:    " ++ Text.joinWith ", " r.topByAttributes,
   "In both:                  " ++ Text.joinWith ", " r.topByBoth,
   "More than " ++ String.ofList (Json.writeInt r.threshold) ++ " methods:      "
     ++ Text.joinWith ", " r.overThreshold,
   ""]

/-- The lines of the call graph. -/
def callGraph (g : CallGraph) : List String :=
  "== Call graph ==" ::
    g.classes.entries.flatMap fun (name, methods) =>
      name :: ((if methods.isEmpty then ["  (no methods)"] else [])
        ++ methods.entries.flatMap fun (method, calls) =>
          ("  " ++ method) ::
            calls.map fun call => "    -> " ++ call.callee ++ " (" ++ call.receiver ++ ")")

/-- The lines of the coupling. -/
def coupling (c : Coupling) : List String :=
  ["", "== Coupling =="] ++ (if c.isEmpty then ["No inter-class calls."] else [])
    ++ c.matrix.map fun row =>
      row.source ++ " -> " ++ row.target ++ ": " ++ Decimal.fixed 4 row.value

/-- The lines of the skipped units. -/
def skipped (units : List SkippedUnit) : List String :=
  units.map fun s => "skipped " ++ s.unit ++ ": " ++ s.reason

/-- The summary of a report. -/
def render (r : Report) : String :=
  String.join
    ((statistics r.stats ++ rankings r ++ callGraph r.graph
      ++ (if r.couplingEnabled then coupling r.coupling else []) ++ skipped r.skipped).map (· ++ "\n"))

end ClassGraph.Summary
