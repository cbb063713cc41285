import ClassGraph.Json.Writer
import ClassGraph.Render.Dot
import ClassGraph.Render.Json
import ClassGraph.Render.Text

/-!
# Output formats

The ways in which a report can be printed.
-/

set_option autoImplicit false

namespace ClassGraph

/-- A way to print a report. -/
inductive OutputFormat where
  | dot
  | json
  | graphJson
  | couplingJson
  | text
deriving DecidableEq, Repr

namespace OutputFormat

/-- The name by which a format is asked for. -/
def name : OutputFormat → String
  | .dot => "dot"
  | .json => "json"
  | .graphJson => "graph-json"
  | .couplingJson => "coupling-json"
  | .text => "text"

/-- All formats. -/
def all : List OutputFormat := [.dot, .json, .graphJson, .couplingJson, .text]

/-- The format with a name. -/
def ofName? (s : String) : Option OutputFormat := all.find? fun f => f.name == s

end OutputFormat

/-- The report printed in a format. -/
def Report.render (r : Report) : OutputFormat → String
  | .dot => Dot.render r.graph
  | .json => r.toJson.pretty
  | .graphJson => (Figure.ofGraph r.graph).toJson.pretty
  | .couplingJson => (Figure.ofCoupling r.coupling).toJson.pretty
  | .text => Summary.render r

end ClassGraph
