import ClassGraph.Files.Tree
import ClassGraph.Files.Workspace

/-!
# A file system

Files are read and written by path. What can go wrong has a number, which is part of its message.
The package manager is not part of the program: what it tells about the files is given with them.
-/

set_option autoImplicit false

namespace ClassGraph

/-- Why a path cannot be read or written. -/
inductive Fault where
  | missing
  | notFolder
  | isFolder
  | notText
deriving DecidableEq, Repr

/-- What is said about a fault. -/
def Fault.message : Fault → String
  | .missing => "No such file or directory (os error 2)"
  | .notFolder => "Not a directory (os error 20)"
  | .isFolder => "Is a directory (os error 21)"
  | .notText => "stream did not contain valid UTF-8"

/-- A tree of files, the names on the way to the working folder, and what the package manager tells. -/
structure FileSystem where
  root : FileTree
  here : List FileName
  /-- The workspace of the manifest at a path, or the text of the package manager's error. -/
  workspace : String → Except String Workspace

namespace FileSystem

/-- Follows the pieces of a path from a place, which is given by the names on the way to it, last
first. A piece after a file leads nowhere, even an empty one. -/
def follow (root : FileTree) : List FileName → List (List UInt8) → Except Fault (List FileName)
  | place, [] => .ok place
  | place, piece :: pieces =>
    match root.find? place.reverse with
    | none => .error .missing
    | some (.file _) => .error .notFolder
    | some (.folder entries) =>
      if piece = [] ∨ piece = [PathName.dot] then follow root place pieces
      else if piece = [PathName.dot, PathName.dot] then follow root (place.drop 1) pieces
      else if (FileTree.child? piece entries).isSome then follow root (piece :: place) pieces
      else .error .missing

/-- Where a path starts: the working folder, or the root. -/
def start (fs : FileSystem) (pieces : List (List UInt8)) : List FileName :=
  match pieces with
  | [] :: _ :: _ => []
  | _ => fs.here.reverse

/-- The names on the way to what a path leads to. -/
def locate (fs : FileSystem) (path : PathName) : Except Fault (List FileName) :=
  if path = [] then .error .missing
  else
    let pieces := Text.splitAt PathName.slash path
    (follow fs.root (fs.start pieces) pieces).map List.reverse

/-- What a path leads to. -/
def find (fs : FileSystem) (path : PathName) : Except Fault FileTree := do
  match fs.root.find? (← fs.locate path) with
  | some t => pure t
  | none => throw .missing

/-- Is there a file? -/
def isFile (fs : FileSystem) (path : PathName) : Bool :=
  ((fs.find path).toOption.map fun t => !t.isFolder).getD false

/-- The bytes of a file. -/
def read (fs : FileSystem) (path : PathName) : Except Fault (List UInt8) := do
  match ← fs.find path with
  | .file bytes => pure bytes
  | .folder _ => throw .isFolder

/-- The text of a file. -/
def readText (fs : FileSystem) (path : PathName) : Except Fault String := do
  match Text.Utf8.decode? (← fs.read path) with
  | some s => pure s
  | none => throw .notText

/-- Writes a file. The folder it is in has to be there. -/
def write (fs : FileSystem) (path : PathName) (bytes : List UInt8) : Except Fault FileSystem := do
  if path = [] then throw .missing
  let pieces := Text.splitAt PathName.slash path
  let back := pieces.reverse.dropWhile (· = [])
  match back with
  | [] => throw .isFolder
  | last :: before =>
    let parent ← (follow fs.root (fs.start pieces) before.reverse).map List.reverse
    match fs.root.find? parent with
    | some (.folder entries) =>
      let closed := last = [PathName.dot] || last = [PathName.dot, PathName.dot]
        || back.length < pieces.length
      if closed then throw .isFolder
      match FileTree.child? last entries with
      | some (.folder _) => throw .isFolder
      | _ => pure { fs with root := .put (.file bytes) (parent ++ [last]) fs.root }
    | some (.file _) => throw .notFolder
    | none => throw .missing

end FileSystem

end ClassGraph
