import ClassGraph.Declaration.Basic
import ClassGraph.Json.Basic

/-!
# Declarations as JSON

Fields stand in a fixed order; a text that is not there is left out.
-/

set_option autoImplicit false

namespace ClassGraph

/-- A call as JSON. -/
def Invocation.toJson (i : Invocation) : Json :=
  .obj ([("callee_name", .str i.callee)] ++ Json.optional "receiver_type" i.receiverType
    ++ Json.optional "declaring_class" i.declaringClass)

/-- An attribute as JSON. -/
def FieldDecl.toJson (f : FieldDecl) : Json :=
  .obj (("name", .str f.name) :: Json.optional "type_name" f.typeName)

/-- A method as JSON. -/
def MethodDecl.toJson (m : MethodDecl) : Json :=
  .obj
    [("name", .str m.name), ("parameter_count", .nat m.parameters), ("line_count", .nat m.lines),
     ("invocations", .arr (m.invocations.map Invocation.toJson))]

/-- A type as JSON. -/
def TypeDecl.toJson (t : TypeDecl) : Json :=
  .obj
    [("name", .str t.name), ("is_interface", .bool t.isInterface),
     ("methods", .arr (t.methods.map MethodDecl.toJson)),
     ("fields", .arr (t.fields.map FieldDecl.toJson))]

/-- A unit as JSON. -/
def CompilationUnit.toJson (u : CompilationUnit) : Json :=
  .obj
    (("name", .str u.name) :: (Json.optional "package" u.package
      ++ [("line_count", .nat u.lines), ("types", .arr (u.types.map TypeDecl.toJson))]))

/-- A skipped unit as JSON. -/
def SkippedUnit.toJson (s : SkippedUnit) : Json :=
  .obj [("unit", .str s.unit), ("reason", .str s.reason)]

end ClassGraph
