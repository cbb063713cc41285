import ClassGraph.Declaration.Dump
import ClassGraph.Rust.Unit

/-!
# The units of a project

Every file is read by its format, in the order of the files; the Rust files share one index.
-/

set_option autoImplicit false

namespace ClassGraph

/-- The units of a file with declarations as JSON; one that cannot be read is a skipped unit. -/
def dumpUnits (file : SourceFile) : List SourceUnit :=
  match Dump.parse file.content with
  | .ok units => units
  | .error e =>
    [.skipped ⟨file.path, "invalid declaration dump " ++ file.path ++ ": " ++ e.message⟩]

/-- The units of a file. -/
def fileUnits [Rust.Complaints] (index : Rust.Index) (file : SourceFile) : List SourceUnit :=
  match file.format? with
  | some .rust => [Rust.unitOf index file]
  | some .dump => dumpUnits file
  | none => []

/-- How the files of a project are read. -/
inductive Reading where
  /-- Each by its extension; files of other formats are left out. -/
  | byExtension
  /-- All as one format. -/
  | all (format : InputFormat)
deriving DecidableEq, Repr

/-- The units of some files. -/
def unitsOf [Rust.Complaints] : Reading → List SourceFile → List SourceUnit
  | .byExtension, files =>
    let index := Rust.Index.ofSources (files.filter fun f => f.format? = some .rust)
    files.flatMap (fileUnits index)
  | .all .rust, files => files.map (Rust.unitOf (Rust.Index.ofSources files))
  | .all .dump, files => files.flatMap dumpUnits

end ClassGraph
