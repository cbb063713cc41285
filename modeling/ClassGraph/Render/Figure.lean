import ClassGraph.Graph.CallGraph
import ClassGraph.Measure.Coupling

/-!
# Graphs as nodes and edges

A figure is a list of nodes and a list of edges between their ids. The figure of a call graph has a
node for every class, for every method and for every target outside the graph; an edge says that a
class contains a method or that a method calls a target. The figure of a coupling has the classes
and a weighted edge for every pair.
-/

set_option autoImplicit false

namespace ClassGraph

/-- What a node stands for. -/
inductive NodeKind where
  | ofClass
  | ofMethod
  | ofExternal
deriving DecidableEq, Repr

/-- A node; a method names its class. -/
structure Node where
  id : String
  label : String
  kind : NodeKind
  owner : Option String
deriving DecidableEq, Repr

/-- What an edge says. -/
inductive Relation where
  | contains
  | calls
  | coupling
deriving DecidableEq, Repr

/-- An edge; only couplings have a weight. -/
structure Edge where
  source : String
  target : String
  relation : Relation
  weight : Option Float

/-- Nodes and the edges between them. -/
structure Figure where
  nodes : List Node
  edges : List Edge

/-- The id of a method's node. -/
def methodId (name method : String) : String := name ++ "." ++ method

/-- A figure that is being drawn: nodes and edges are put down one after the other. -/
structure Drawing where
  nodes : Array Node
  edges : Array Edge

namespace Drawing

/-- Nothing is drawn yet. -/
def blank : Drawing := ⟨#[], #[]⟩

/-- Puts down a node. -/
def node (d : Drawing) (n : Node) : Drawing := { d with nodes := d.nodes.push n }

/-- Puts down an edge. -/
def edge (d : Drawing) (e : Edge) : Drawing := { d with edges := d.edges.push e }

/-- Draws a call made in the method with the given id. -/
def drawCall (id : String) (d : Drawing) (call : Call) : Drawing :=
  d.edge ⟨id, call.target, .calls, none⟩

/-- Draws a method of a class: its node, the edge from the class, and its calls. -/
def drawMethod (name : String) (d : Drawing) (entry : String × List Call) : Drawing :=
  let id := methodId name entry.1
  let drawn := (d.node ⟨id, entry.1, .ofMethod, some name⟩).edge ⟨name, id, .contains, none⟩
  entry.2.foldl (drawCall id) drawn

/-- Draws a class with its methods. -/
def drawClass (d : Drawing) (entry : String × Methods) : Drawing :=
  entry.2.entries.foldl (drawMethod entry.1) (d.node ⟨entry.1, entry.1, .ofClass, none⟩)

/-- Puts down the node of a class, unless it is there already. -/
def meet (d : Drawing) (name : String) : Drawing :=
  if d.nodes.any fun n => n.id = name then d else d.node ⟨name, name, .ofClass, none⟩

/-- Draws a target of a class: its node, and the edge with its share of the calls. -/
def drawTarget (c : Coupling) (source : String) (d : Drawing) (entry : String × Nat) : Drawing :=
  (d.meet entry.1).edge ⟨source, entry.1, .coupling, some (c.share entry.2)⟩

/-- Draws a class with its targets. -/
def drawSource (c : Coupling) (d : Drawing) (entry : String × Table Nat) : Drawing :=
  entry.2.entries.foldl (drawTarget c entry.1) (d.meet entry.1)

end Drawing

/-- The figure of a call graph: its classes are drawn in order, and the targets outside follow. -/
def Figure.ofGraph (g : CallGraph) : Figure :=
  let drawn := g.classes.entries.foldl Drawing.drawClass .blank
  { nodes := drawn.nodes.toList ++ g.externals.map fun target => ⟨target, target, .ofExternal, none⟩
    edges := drawn.edges.toList }

/-- The figure of a coupling: its sources are drawn in order, each with its targets. -/
def Figure.ofCoupling (c : Coupling) : Figure :=
  let drawn := c.counts.entries.foldl (Drawing.drawSource c) .blank
  ⟨drawn.nodes.toList, drawn.edges.toList⟩

end ClassGraph
