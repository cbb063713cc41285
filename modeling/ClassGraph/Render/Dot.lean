import ClassGraph.Graph.CallGraph
import ClassGraph.Render.Figure
import ClassGraph.Text.Pieces

/-!
# Call graphs in the DOT language

A fixed header, a line for every node, a line for every edge, and a fixed legend. Names stand in
quotes, with quotes, backslashes and newlines escaped.
-/

set_option autoImplicit false

namespace ClassGraph.Dot

/-- A name as it stands inside quotes: first its backslashes are escaped, then its quotes, then its
    newlines. -/
def escape (s : String) : String :=
  Text.replaceWith '\n' "\\n" (Text.replaceWith '"' "\\\"" (Text.replaceWith '\\' "\\\\" s))

/-- The shape of a node. -/
def shape : NodeKind → String
  | .ofClass => "ellipse"
  | .ofMethod => "box"
  | .ofExternal => "box"

/-- The colour of a node. -/
def colour : NodeKind → String
  | .ofClass => "orange"
  | .ofMethod => "pink"
  | .ofExternal => "mediumpurple"

/-- The line of a node. -/
def nodeLine (id label : String) (kind : NodeKind) : String :=
  "    \"" ++ escape id ++ "\" [label=\"" ++ escape label ++ "\", shape=" ++ shape kind
    ++ ", style=filled, fillcolor=" ++ colour kind ++ "];"

/-- The line of an edge. -/
def edgeLine (source target : String) : String :=
  "    \"" ++ escape source ++ "\" -> \"" ++ escape target ++ "\";"

/-- The lines in front of the nodes. -/
def header : List String :=
  ["digraph CallGraph \x7b",
   "    rankdir=LR;",
   "    node [fontname=\"Helvetica\", fontsize=12];",
   "    edge [fontname=\"Helvetica\", fontsize=10];",
   ""]

/-- A box of the legend. -/
def legendBox (name label : String) (kind : NodeKind) : String :=
  "        " ++ name ++ " [label=\"" ++ label ++ "\", shape=box, style=filled, fillcolor="
    ++ colour kind ++ "];"

/-- The lines of the legend and the closing brace. -/
def legend : List String :=
  ["    subgraph cluster_legend \x7b",
   "        label=\"Legend\";",
   "        fontsize=14;",
   "        color=black;",
   "        style=dashed;",
   legendBox "legend_class" "Class" .ofClass,
   legendBox "legend_method" "Project method" .ofMethod,
   legendBox "legend_external" "External method" .ofExternal,
   "        legend_class -> legend_method [label=\"contains\"];",
   "        legend_method -> legend_external [label=\"calls\"];",
   "    \x7d",
   "\x7d"]

/-- The lines of the nodes. -/
def nodeLines (g : CallGraph) : List String :=
  (g.classes.entries.flatMap fun (name, methods) =>
    nodeLine name name .ofClass ::
      methods.keys.map fun method => nodeLine (name ++ "." ++ method) method .ofMethod)
  ++ g.externals.map fun target => nodeLine target target .ofExternal

/-- The lines of the edges. -/
def edgeLines (g : CallGraph) : List String :=
  g.classes.entries.flatMap fun (name, methods) =>
    methods.entries.flatMap fun (method, calls) =>
      edgeLine name (name ++ "." ++ method) ::
        calls.map fun call => edgeLine (name ++ "." ++ method) call.target

/-- The graph in the DOT language. -/
def render (g : CallGraph) : String :=
  Text.joinWith "\n" (header ++ nodeLines g ++ [""] ++ edgeLines g ++ [""] ++ legend)

end ClassGraph.Dot
