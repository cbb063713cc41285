/-!
# Workspaces

What the package manager tells about a manifest: the packages it knows, which of them are members of
the workspace, and what each of them builds.
-/

set_option autoImplicit false

namespace ClassGraph

/-- Something that a package builds: the kinds it is of, and the path of the file that it starts
with. -/
structure Target where
  kinds : List String
  source : String
deriving DecidableEq, Repr

/-- A package. -/
structure Package where
  id : String
  name : String
  targets : List Target
deriving DecidableEq, Repr

/-- A workspace; its members are named by the ids of their packages. -/
structure Workspace where
  members : List String
  packages : List Package
deriving DecidableEq, Repr

end ClassGraph
