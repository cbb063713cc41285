import ClassGraph.Files.PathName
import ClassGraph.Text.Case

/-!
# Formats of project files
-/

set_option autoImplicit false

namespace ClassGraph

/-- What a project file holds. -/
inductive InputFormat where
  /-- Rust source text. -/
  | rust
  /-- Declarations as JSON. -/
  | dump
deriving DecidableEq, Repr

namespace InputFormat

/-- The format with a given name, in any case. -/
def ofName? (name : String) : Option InputFormat :=
  let name := Text.lowercase name
  if name = "rust" ∨ name = "rs" then some .rust
  else if name = "json" ∨ name = "dump" ∨ name = "declarations" then some .dump
  else none

/-- The format of files with a given extension, in any case. -/
def ofExtension? (extension : String) : Option InputFormat :=
  let extension := Text.lowercase extension
  if extension = "rs" then some .rust
  else if extension = "json" then some .dump
  else none

/-- The format of the file at a path. An extension that is no text tells none. -/
def ofPath? (path : PathName) : Option InputFormat :=
  ((PathName.extension? path).bind Text.Utf8.decode?).bind ofExtension?

/-- What the format is called. -/
def name : InputFormat → String
  | .rust => "Rust source"
  | .dump => "declaration dump"

/-- The extensions of files in the format. -/
def extensions : InputFormat → List String
  | .rust => ["rs"]
  | .dump => ["json"]

end InputFormat

end ClassGraph
