import ClassGraph.Project.InputFormat

/-!
# Files of a project
-/

set_option autoImplicit false

namespace ClassGraph

/-- A project file, with the name of the crate it belongs to and its path as it is shown. -/
structure SourceFile where
  crateName : String
  path : String
  content : String
deriving DecidableEq, Repr

/-- The format of a project file. -/
def SourceFile.format? (f : SourceFile) : Option InputFormat :=
  InputFormat.ofPath? (PathName.ofText f.path)

end ClassGraph
