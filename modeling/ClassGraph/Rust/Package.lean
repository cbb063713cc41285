import ClassGraph.Files.PathName

/-!
# The module of a file

A file under the `src` folder of a crate is a module of that crate, named by the folders on the way
to it. The files `lib.rs`, `main.rs` and `mod.rs` stand for the module they are in.
-/

set_option autoImplicit false

namespace ClassGraph.Rust

/-- The names in a path. -/
def pathNames (path : String) : List String :=
  (PathName.components (PathName.ofText path)).filterMap fun
    | .name n => Text.Utf8.decode? n
    | _ => none

/-- What follows the last `src`, or the last name if there is none. -/
def namesInCrate (names : List String) : List String :=
  if "src" ∈ names then (names.reverse.takeWhile (· ≠ "src")).reverse
  else names.getLast?.toList

/-- A file name without its extension. -/
def moduleFileName (name : String) : String :=
  match name.toList.reverse with
  | 's' :: 'r' :: '.' :: rest => String.ofList rest.reverse
  | _ => name

/-- The last segment of a module, unless the file stands for the module it is in. -/
def fileSegment (name : String) : List String :=
  let stem := moduleFileName name
  if stem = "lib" ∨ stem = "main" ∨ stem = "mod" then [] else [stem]

/-- The segments of a module below its crate. -/
def moduleSegments (names : List String) : List String :=
  (match names.getLast? with
    | some file => names.dropLast ++ fileSegment file
    | none => []).map (Text.replaceChar '-' '_')

/-- The path of the module that a file is. -/
def modulePath (crateName path : String) : String :=
  let inCrate := moduleSegments (namesInCrate (pathNames path))
  Text.joinWith "::" (if crateName.isEmpty then inCrate else crateName :: inCrate)

end ClassGraph.Rust
