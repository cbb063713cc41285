import ClassGraph.Command.Run
import ClassGraph.Service.Session
import Std.Async.TCP

/-!
# The program

Copies the files that a run may look at, lets the run be carried out on the copy, and does what comes
of it: prints, writes a file, or answers requests on a local network socket until one of them ends it.
-/

set_option autoImplicit false

namespace ClassGraph.Program

open Std.Async

/-! ## Copies of files -/

/-- The names on the way to a path that is followed from some names. -/
def namesFrom (before : List FileName) (path : String) : List FileName :=
  ((PathName.components (PathName.ofText path)).foldl step before.reverse).reverse
where
  step (names : List FileName) : PathName.Component → List FileName
    | .root => []
    | .here => names
    | .up => names.drop 1
    | .name n => n :: names

/-- A copy of what is at a path. Folders are copied with what is below them if `deep`; there, files
of no known format stay empty, and folders that are never loaded are left out. -/
partial def copy (deep : Bool) (path : String) : IO FileTree := do
  let place ← IO.FS.realPath path
  if ← place.isDir then
    if !deep then return .folder []
    let mut entries := #[]
    for entry in ← place.readDir do
      let name := PathName.ofText entry.fileName
      let isDir ← entry.path.isDir
      if isDir && Loader.isExcluded [] name then continue
      if isDir || (InputFormat.ofPath? name).isSome then
        entries := entries.push (name, ← copy true (path ++ "/" ++ entry.fileName))
    return .folder entries.toList
  else return .file (← IO.FS.readBinFile place).toList

/-- The package manager is not asked. -/
def noPackages (_ : String) : Except String Workspace := .error "the package list is not available"

/-- Copies of what is at some paths. What cannot be read is not there. -/
def copyAll (paths : List (String × Bool)) : IO FileSystem := do
  let here := namesFrom [] (toString (← IO.currentDir))
  let mut root := FileTree.put (.folder []) here (.folder [])
  for (path, deep) in paths do
    let names := namesFrom here path
    if (root.find? names).isNone || deep then
      try
        root := .put (← copy deep path) names root
      catch _ => pure ()
  return ⟨root, here, noPackages⟩

/-! ## Requests -/

attribute [local instance] Rust.plainComplaints

/-- Answers the lines in `pending`, as far as they are finished. The answer tells what is left, or
that the session is over, and whether the program is. -/
partial def answerLines (config : Config) (client : TCP.Socket.Client) (pending : List UInt8) :
    Async (Option (List UInt8) × Bool) := do
  match pending.dropWhile (· ≠ 10) with
  | [] => return (some pending, false)
  | _ :: rest =>
    match Text.Utf8.decode? (pending.takeWhile (· ≠ 10)) with
    | none => return (none, false)
    | some line =>
      let files ← copyAll ((Session.pathOf? line).toList.map (·, true))
      match Session.reply files config line with
      | .silent => answerLines config client rest
      | .line text =>
        client.send (text ++ "\n").toUTF8
        answerLines config client rest
      | .last text =>
        client.send (text ++ "\n").toUTF8
        return (none, true)
      | .broken => return (none, false)

/-- Answers the requests of a connection, and tells whether one of them ends the program. -/
partial def converse (config : Config) (client : TCP.Socket.Client) (pending : List UInt8) :
    Async Bool := do
  match ← client.recv? 65536 with
  | none => return (← answerLines config client (pending ++ [10])).2
  | some bytes =>
    match ← answerLines config client (pending ++ bytes.toList) with
    | (some left, _) => converse config client left
    | (none, ended) => return ended

/-- Takes connections; each is served on its own. -/
partial def acceptAll (config : Config) (server : TCP.Socket.Server) (ended : IO.Promise Unit) :
    Async Unit := do
  let client ← server.accept
  background (t := AsyncTask) do
    if ← converse config client [] then ended.resolve ()
  acceptAll config server ended

/-- Answers requests at a local network socket. -/
def serve (socketNumber : Nat) (config : Config) : IO UInt32 := do
  let server ← TCP.Socket.Server.mk
  let address := "127.0.0.1:" ++ toString socketNumber
  try
    server.bind (.v4 ⟨.ofParts 127 0 0 1, socketNumber.toUInt16⟩)
    server.listen 128
  catch e =>
    IO.eprint ("Error: Failed to bind to " ++ address ++ "\n\nCaused by:\n    " ++ toString e ++ "\n")
    return 1
  let ended ← IO.Promise.new
  let _ ← (acceptAll config server ended).asTask
  let _ ← IO.wait ended.result?
  return 0

/-! ## Runs -/

/-- Does what a run leads to, and gives the exit code. -/
def perform (outcome : Outcome) : IO UInt32 := do
  IO.print outcome.printedText
  match outcome with
  | .usage => IO.eprint ("error: wrong arguments\n\nUsage: " ++ Help.program ++ " [OPTIONS]\n")
  | .failed f => IO.eprint f.report
  | .overflow o => IO.eprint (o.message ++ "\n")
  | .wrote path text _ => IO.FS.writeFile path text
  | .serving socketNumber config => return ← serve socketNumber config
  | .shown _ | .printed _ => pure ()
  return outcome.code.toUInt32

/-- Carries out a command line. -/
def start (words : List String) : IO UInt32 := do
  let environment ← IO.getEnv Config.environmentVariable
  let paths :=
    match Arguments.parse words with
    | .ok a => a.paths environment
    | .error _ => []
  perform (run (← copyAll paths) environment words)

end ClassGraph.Program

/-- The program. -/
def main (words : List String) : IO UInt32 := ClassGraph.Program.start words
