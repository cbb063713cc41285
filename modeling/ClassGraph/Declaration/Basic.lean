/-!
# Declarations

What is known of a project before any graph is built: for every compilation unit its types with
their methods and fields, and for every method the calls in its body with what could be told about
their receivers. A unit that could not be read is skipped, with a reason.
-/

set_option autoImplicit false

namespace ClassGraph

/-- A call in a method body, with what is known of where it goes. -/
structure Invocation where
  callee : String
  receiverType : Option String
  declaringClass : Option String
deriving DecidableEq, Repr

/-- An attribute of a type. -/
structure FieldDecl where
  name : String
  typeName : Option String
deriving DecidableEq, Repr

/-- A method of a type. -/
structure MethodDecl where
  name : String
  parameters : Nat
  lines : Nat
  invocations : List Invocation
deriving DecidableEq, Repr

/-- A class or an interface. -/
structure TypeDecl where
  name : String
  isInterface : Bool
  methods : List MethodDecl
  fields : List FieldDecl
deriving DecidableEq, Repr

/-- A type of which nothing is known but its name. -/
def TypeDecl.bare (name : String) : TypeDecl := ⟨name, false, [], []⟩

/-- What one file or module declares. -/
structure CompilationUnit where
  name : String
  package : Option String
  lines : Nat
  types : List TypeDecl
deriving DecidableEq, Repr

/-- A unit that could not be read. -/
structure SkippedUnit where
  unit : String
  reason : String
deriving DecidableEq, Repr

/-- A unit, or the reason why there is none. -/
inductive SourceUnit where
  | read (unit : CompilationUnit)
  | skipped (unit : SkippedUnit)
deriving DecidableEq, Repr

/-- The units that were read. -/
def readUnits : List SourceUnit → List CompilationUnit
  | [] => []
  | .read u :: rest => u :: readUnits rest
  | .skipped _ :: rest => readUnits rest

/-- The units that were skipped. -/
def skippedUnits : List SourceUnit → List SkippedUnit
  | [] => []
  | .read _ :: rest => skippedUnits rest
  | .skipped s :: rest => s :: skippedUnits rest

end ClassGraph
