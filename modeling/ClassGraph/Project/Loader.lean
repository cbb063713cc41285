import ClassGraph.Project.Failure
import ClassGraph.Project.SourceFile

/-!
# Loading projects

A folder is loaded with everything below it that has a known format, except for folders that are left
out; its files come in the order of their paths as they are shown. A workspace is loaded in the same
way, from the folders that the source of its members starts in. Single files are loaded in the order
given.
-/

set_option autoImplicit false

namespace ClassGraph.Loader

/-- Folders that are never loaded. -/
def alwaysExcluded : List String := ["target", ".git"]

/-- Is the folder at a path left out? A name that is no text never is. -/
def isExcluded (excluded : List String) (path : PathName) : Bool :=
  match (PathName.fileName? path).bind Text.Utf8.decode? with
  | some name => alwaysExcluded.contains name || excluded.contains name
  | none => false

mutual

/-- The files of a project at a path, with their paths. -/
def collect (excluded : List String) (path : PathName) : FileTree → List (PathName × List UInt8)
  | .file bytes => if (InputFormat.ofPath? path).isSome then [(path, bytes)] else []
  | .folder entries => if isExcluded excluded path then [] else collectAll excluded path entries

/-- The files of a project among the entries of a folder. -/
def collectAll (excluded : List String) (folder : PathName) :
    List (FileName × FileTree) → List (PathName × List UInt8)
  | [] => []
  | (name, t) :: rest =>
    collect excluded (PathName.join folder name) t ++ collectAll excluded folder rest

end

/-- The crate that a package or a folder with a name stands for. -/
def crateOf (name : String) : String := Text.replaceChar '-' '_' name

/-- The crate that the folder at a path stands for, if its name is there and is text. -/
def crateName (folder : PathName) : String :=
  (((PathName.fileName? folder).bind Text.Utf8.decode?).map crateOf).getD ""

/-- A project file out of its bytes. -/
def sourceFile (crate : String) (path : PathName) (bytes : List UInt8) : SourceFile :=
  ⟨crate, PathName.shown path, Text.Utf8.decodeLossy bytes⟩

/-- Drops every file whose path is the one before, which is given for the first. -/
def dropAfter (path : String) : List SourceFile → List SourceFile
  | [] => []
  | f :: rest => if f.path = path then dropAfter path rest else f :: dropAfter f.path rest

/-- Drops every file whose path is the one before. -/
def dropRepeated : List SourceFile → List SourceFile
  | [] => []
  | f :: rest => f :: dropAfter f.path rest

/-- The files in the order of their paths, each path once. -/
def inOrder (files : List SourceFile) : List SourceFile :=
  dropRepeated (files.mergeSort fun a b => decide (¬ b.path < a.path))

/-- The files that a walk from a path finds, as files of a crate. -/
def found (excluded : List String) (crate : String) (path : PathName) (t : FileTree) :
    List SourceFile :=
  (collect excluded path t).map fun e => sourceFile crate e.1 e.2

/-! ## Folders -/

/-- The project files below a folder. -/
def folderFiles (excluded : List String) (folder : PathName) (t : FileTree) : List SourceFile :=
  inOrder (found excluded (crateName folder) folder t)

/-- Loads a folder. -/
def loadFolder (fs : FileSystem) (excluded : List String) (folder : PathName) :
    Except Failure (List SourceFile) :=
  match fs.find folder with
  | .ok (.folder entries) => .ok (folderFiles excluded folder (.folder entries))
  | _ => .error (.notFolder (PathName.shown folder))

/-! ## Workspaces -/

/-- The kinds of targets that are code of the crate itself; tests and benches are not. -/
def crateKinds : List String := ["lib", "bin", "proc-macro"]

/-- The folder that the source of a target starts in. -/
def sourceFolder (t : Target) : PathName :=
  let path := PathName.ofText t.source
  (PathName.parent? path).getD path

/-- The files of a target. There are none if its folder is not there. -/
def targetFiles (fs : FileSystem) (excluded : List String) (crate : String) (t : Target) :
    List SourceFile :=
  if t.kinds.any crateKinds.contains then
    match fs.find (sourceFolder t) with
    | .ok tree => found excluded crate (sourceFolder t) tree
    | .error _ => []
  else []

/-- The files of a member. A member without a package has none. -/
def memberFiles (fs : FileSystem) (excluded : List String) (w : Workspace) (id : String) :
    List SourceFile :=
  match w.packages.find? fun p => p.id = id with
  | some package => package.targets.flatMap (targetFiles fs excluded (crateOf package.name))
  | none => []

/-- Loads the workspace of a manifest. A folder that several targets share is loaded once. -/
def loadWorkspace (fs : FileSystem) (excluded : List String) (manifest : String) :
    Except Failure (List SourceFile) :=
  match fs.workspace manifest with
  | .ok w => .ok (inOrder (w.members.flatMap (memberFiles fs excluded w)))
  | .error detail => .error (.workspace manifest detail)

/-! ## Single files -/

/-- The crate of a single file: the folder it is in, or the one above if that is `src`. -/
def crateOfFile (path : PathName) : String :=
  match PathName.parent? path with
  | none => ""
  | some folder =>
    if PathName.fileName? folder = some (PathName.ofText "src") then
      crateName ((PathName.parent? folder).getD folder)
    else crateName folder

/-- Loads a single file. -/
def loadFile (fs : FileSystem) (path : PathName) : Except Failure SourceFile :=
  match fs.read path with
  | .ok bytes => .ok (sourceFile (crateOfFile path) path bytes)
  | .error fault => .error (.unreadable (PathName.shown path) fault)

/-- Loads single files. -/
def loadFiles (fs : FileSystem) (paths : List PathName) : Except Failure (List SourceFile) :=
  paths.mapM (loadFile fs)

end ClassGraph.Loader
