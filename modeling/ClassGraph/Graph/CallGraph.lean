import ClassGraph.Table

/-!
# Call graphs

A call graph maps every class to its methods and every method to its calls, all in the order in
which they first came. Declaring a method again starts its list of calls anew.
-/

set_option autoImplicit false

namespace ClassGraph

/-- A call: the method called and the class it is called on. -/
structure Call where
  callee : String
  receiver : String
deriving DecidableEq, Repr

/-- The name under which the target of a call is shown. -/
def Call.target (c : Call) : String := c.receiver ++ "." ++ c.callee

/-- The methods of a class with their calls. -/
abbrev Methods := Table (List Call)

/-- Classes with their methods and the calls of each. -/
structure CallGraph where
  classes : Table Methods
deriving DecidableEq

/-- A call together with the class and method it is made in. -/
structure Site where
  owner : String
  method : String
  call : Call
deriving DecidableEq, Repr

namespace CallGraph

instance : EmptyCollection CallGraph := ⟨⟨∅⟩⟩
instance : Inhabited CallGraph := ⟨∅⟩

/-- Makes sure that the class is there. -/
def addClass (g : CallGraph) (name : String) : CallGraph :=
  ⟨g.classes.ensure name ∅⟩

/-- Declares a method of a class, without calls. -/
def addMethod (g : CallGraph) (name method : String) : CallGraph :=
  ⟨g.classes.upsert name fun old => (old.getD ∅).insert method []⟩

/-- Adds a call to a method of a class, which are made if they are not there. -/
def addCall (g : CallGraph) (name method : String) (call : Call) : CallGraph :=
  ⟨g.classes.upsert name fun old =>
    (old.getD ∅).upsert method fun calls => calls.getD [] ++ [call]⟩

/-- The methods of a class. -/
def methods? (g : CallGraph) (name : String) : Option Methods := g.classes.find? name

/-- The calls of a method of a class. -/
def calls? (g : CallGraph) (name method : String) : Option (List Call) :=
  (g.methods? name).bind fun ms => ms.find? method

/-- The classes, in order. -/
def names (g : CallGraph) : List String := g.classes.keys

/-- Every call with the place where it is made, in order. -/
def sites (g : CallGraph) : List Site :=
  g.classes.entries.flatMap fun (name, methods) =>
    methods.entries.flatMap fun (method, calls) =>
      calls.map fun call => ⟨name, method, call⟩

/-- How many calls there are. -/
def callCount (g : CallGraph) : Nat := g.sites.length

/-- Is the call one of a method that the graph holds? -/
def isProjectMethod (g : CallGraph) (c : Call) : Bool := (g.calls? c.receiver c.callee).isSome

/-- The distinct calls, in order of their first occurrence. -/
def distinctCalls (g : CallGraph) : List Call := (g.sites.map Site.call).eraseDups

/-- The names of the targets outside the graph, in order of their first call. -/
def externals (g : CallGraph) : List String :=
  ((g.distinctCalls.filter fun c => !g.isProjectMethod c).map Call.target).eraseDups

/-- The methods of `other` written over those of `ms`. -/
def mergeMethods (ms other : Methods) : Methods :=
  other.entries.foldl (fun acc e => acc.insert e.1 e.2) ms

/-- The classes and methods of `other` written over those of `g`. -/
def merge (g other : CallGraph) : CallGraph :=
  ⟨other.classes.entries.foldl
    (fun acc e => acc.upsert e.1 fun old => mergeMethods (old.getD ∅) e.2) g.classes⟩

end CallGraph

end ClassGraph
