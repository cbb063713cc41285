import ClassGraph.Declaration.Writer
import ClassGraph.Measure.Report
import ClassGraph.Render.Figure

/-!
# Results as JSON

Graphs, counters, options, statistics, figures and reports as JSON values; fields stand in a fixed
order and tables keep theirs.
-/

set_option autoImplicit false

namespace ClassGraph

/-- A table as an object. -/
def Table.toJson {α : Type} (f : α → Json) (t : Table α) : Json :=
  .obj (t.entries.map fun (name, v) => (name, f v))

/-- A call as JSON. -/
def Call.toJson (c : Call) : Json :=
  .obj [("callee_name", .str c.callee), ("receiver_type", .str c.receiver)]

/-- A call graph as JSON. -/
def CallGraph.toJson (g : CallGraph) : Json :=
  g.classes.toJson (Table.toJson fun calls => .arr (calls.map Call.toJson))

/-- Counters as JSON. -/
def Counters.toJson (k : Counters) : Json :=
  .obj
    [("method_counts", k.methods.toJson Json.nat), ("attribute_counts", k.attributes.toJson Json.nat)]

/-- A scope as JSON. -/
def Scope.toJson : Scope → Json
  | .project => .str "project"
  | .only name => .obj [("class", .str name)]

/-- Options as JSON. -/
def Options.toJson (o : Options) : Json :=
  .obj
    [("coupling_enabled", .bool o.coupling), ("method_threshold", .int o.threshold),
     ("scope", o.scope.toJson)]

/-- A coupling as JSON. -/
def Coupling.toJson (c : Coupling) : Json :=
  .obj
    [("total_inter_class_calls", .nat c.total),
     ("map", c.counts.toJson (Table.toJson fun n => .float (c.share n)))]

/-- Statistics as JSON. -/
def Stats.toJson (s : Stats) : Json :=
  .obj
    [("total_units", .nat s.units), ("skipped_units", .nat s.skipped),
     ("total_classes", .nat s.classes), ("total_interfaces", .nat s.interfaces),
     ("total_methods", .nat s.methods), ("total_attributes", .nat s.attributes),
     ("total_lines", .nat s.lines), ("total_packages", .nat s.packages),
     ("avg_methods_per_class", .float s.methodsPerClass),
     ("avg_attributes_per_class", .float s.attributesPerClass),
     ("avg_lines_per_method", .float s.linesPerMethod),
     ("max_parameters", .nat s.maxParameters),
     ("longest_methods", s.longestMethods.toJson Json.strs)]

/-- The name of a kind of node. -/
def NodeKind.name : NodeKind → String
  | .ofClass => "CLASS"
  | .ofMethod => "METHOD"
  | .ofExternal => "EXTERNAL"

/-- A node as JSON. -/
def Node.toJson (n : Node) : Json :=
  .obj ([("id", .str n.id), ("label", .str n.label), ("kind", .str n.kind.name)]
    ++ Json.optional "class" n.owner)

/-- The name of a relation. -/
def Relation.name : Relation → String
  | .contains => "contains"
  | .calls => "calls"
  | .coupling => "coupling"

/-- An edge as JSON. -/
def Edge.toJson (e : Edge) : Json :=
  .obj ([("from", .str e.source), ("to", .str e.target), ("type", .str e.relation.name)]
    ++ match e.weight with
      | some w => [("weight", .float w)]
      | none => [])

/-- A figure as JSON. -/
def Figure.toJson (f : Figure) : Json :=
  .obj [("nodes", .arr (f.nodes.map Node.toJson)), ("edges", .arr (f.edges.map Edge.toJson))]

/-- A report as JSON. -/
def Report.toJson (r : Report) : Json :=
  .obj
    [("call_graph", r.graph.toJson), ("method_counts", r.counters.methods.toJson Json.nat),
     ("attribute_counts", r.counters.attributes.toJson Json.nat),
     ("coupling_enabled", .bool r.couplingEnabled), ("coupling", r.coupling.toJson),
     ("top_by_methods", .strs r.topByMethods), ("top_by_attributes", .strs r.topByAttributes),
     ("top_intersection", .strs r.topByBoth), ("method_threshold", .int r.threshold),
     ("over_threshold", .strs r.overThreshold), ("stats", r.stats.toJson),
     ("skipped_units", .arr (r.skipped.map SkippedUnit.toJson))]

end ClassGraph
