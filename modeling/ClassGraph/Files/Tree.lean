import ClassGraph.Files.PathName

/-!
# Trees of files

A folder holds files and folders by name, in no particular order. Paths are followed piece by piece
from the working folder, or from the root if they start with a slash.
-/

set_option autoImplicit false

namespace ClassGraph

/-- A file with its bytes, or a folder with its entries. -/
inductive FileTree where
  | file (bytes : List UInt8)
  | folder (entries : List (FileName × FileTree))

namespace FileTree

instance : Inhabited FileTree := ⟨.folder []⟩

/-- The entry with a name. -/
def child? (name : FileName) : List (FileName × FileTree) → Option FileTree
  | [] => none
  | (n, t) :: rest => if n = name then some t else child? name rest

/-- Writes an entry, at its place or at the end. -/
def setEntry (name : FileName) (t : FileTree) : List (FileName × FileTree) → List (FileName × FileTree)
  | [] => [(name, t)]
  | (n, u) :: rest => if n = name then (n, t) :: rest else (n, u) :: setEntry name t rest

/-- The entries of a folder; a file has none. -/
def entries : FileTree → List (FileName × FileTree)
  | .file _ => []
  | .folder es => es

/-- Is it a folder? -/
def isFolder : FileTree → Bool
  | .file _ => false
  | .folder _ => true

/-- What stands at the end of some names. -/
def find? : FileTree → List FileName → Option FileTree
  | t, [] => some t
  | .file _, _ :: _ => none
  | .folder es, name :: names =>
    match child? name es with
    | some t => t.find? names
    | none => none

/-- Puts something at the end of some names; folders on the way come into being. -/
def put (new : FileTree) : List FileName → FileTree → FileTree
  | [], _ => new
  | name :: names, t =>
    .folder (setEntry name (put new names ((child? name t.entries).getD (.folder []))) t.entries)

mutual

/-- All files below, with the names on the way to them. -/
def files (before : List FileName) : FileTree → List (List FileName × List UInt8)
  | .file bytes => [(before, bytes)]
  | .folder es => filesOf before es

/-- All files below some entries. -/
def filesOf (before : List FileName) : List (FileName × FileTree) → List (List FileName × List UInt8)
  | [] => []
  | (name, t) :: rest => t.files (before ++ [name]) ++ filesOf before rest

end

end FileTree

end ClassGraph
