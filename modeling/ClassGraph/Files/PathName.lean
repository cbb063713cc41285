import ClassGraph.Text.Pieces
import ClassGraph.Text.Utf8

/-!
# Names of files

The name of a file is made of bytes, which need not be text, and so is a path; slashes separate the
components of a path. Empty components count for nothing, nor does a dot, unless the path starts with
it. Where a path is shown, what is no text in it is replaced, so that two paths may look the same.
-/

set_option autoImplicit false

namespace ClassGraph

/-- The name of a file or of a folder. -/
abbrev FileName := List UInt8

/-- A path. -/
abbrev PathName := List UInt8

namespace PathName

/-- The byte between components. -/
def slash : UInt8 := 0x2F

/-- The byte in front of an extension. -/
def dot : UInt8 := 0x2E

/-- The path that a text is. -/
def ofText (s : String) : PathName := Text.Utf8.encode s

/-- A path as it is shown. -/
def shown (path : PathName) : String := Text.Utf8.decodeLossy path

/-- A component of a path. -/
inductive Component where
  | root
  | here
  | up
  | name (n : FileName)
deriving DecidableEq, Repr

/-- The component that a piece between slashes stands for; `first` is the piece in front of the
first slash. -/
def component? (first : Bool) (piece : List UInt8) : Option Component :=
  if piece = [] then none
  else if piece = [dot] then if first then some .here else none
  else if piece = [dot, dot] then some .up
  else some (.name piece)

/-- The components of a path. -/
def components (path : PathName) : List Component :=
  match Text.splitAt slash path with
  | [] => []
  | first :: pieces =>
    let rest := pieces.filterMap (component? false)
    if first = [] && !pieces.isEmpty then .root :: rest
    else (component? true first).toList ++ rest

/-- The file name of a path: its last component, if that is a name. -/
def fileName? (path : PathName) : Option FileName :=
  match (components path).getLast? with
  | some (.name n) => some n
  | _ => none

/-- Pieces behind the first slash without those at their end that count for nothing. -/
def withoutBlank (pieces : List (List UInt8)) : List (List UInt8) :=
  (pieces.reverse.dropWhile fun piece => piece = [] || piece = [dot]).reverse

/-- The path in front of the last component. The root has none. -/
def parent? (path : PathName) : Option PathName :=
  match Text.splitAt slash path with
  | [] => none
  | first :: pieces =>
    match withoutBlank pieces with
    | [] => if first = [] then none else some []
    | last :: rest =>
      match withoutBlank (last :: rest).dropLast with
      | [] => some (if first = [] then [slash] else first)
      | before => some ([slash].intercalate (first :: before))

/-- What follows the last dot of the file name, unless the name starts there. -/
def extension? (path : PathName) : Option (List UInt8) :=
  match fileName? path with
  | none => none
  | some name =>
    match Text.cutLast dot name with
    | some (stem, extension) => if stem.isEmpty then none else some extension
    | none => none

/-- The path of something in a folder. -/
def join (folder : PathName) (name : FileName) : PathName :=
  if folder.getLast? = some slash then folder ++ name else folder ++ slash :: name

end PathName

end ClassGraph
