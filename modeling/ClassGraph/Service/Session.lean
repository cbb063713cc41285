import ClassGraph.Project.Config
import ClassGraph.Project.Loader
import ClassGraph.Project.Units
import ClassGraph.Service.Request
import ClassGraph.Text.Blank

/-!
# Sessions

A session answers requests, one line for each line that is not blank, until it is asked to stop. The
answer to a line depends on that line alone, the files and the settings.
-/

set_option autoImplicit false

namespace ClassGraph

/-- Why a request has no data as its answer. -/
inductive Refusal where
  | notARequest (error : Json.Error)
  | unknownCommand (name : String)
  | missingParams (command : String)
  | wrongParams (command : String) (cause : Json.Cause)
  | noProject (path : String)
  | failed (failure : Failure)
  /-- Counting did not fit, which ends the session without an answer. -/
  | overflow (o : Overflow)

/-- What is said about a refusal. -/
def Refusal.message : Refusal → String
  | .notARequest e => "Invalid JSON format: " ++ e.message
  | .unknownCommand name => "Unknown command: " ++ name
  | .missingParams command => "Missing params for " ++ command
  | .wrongParams command cause => "Invalid params for " ++ command ++ ": " ++ cause.message
  | .noProject path => "Project path not found: " ++ path
  | .failed f => f.oneLine
  | .overflow o => o.message

namespace Session

/-- The name of the manifest of a workspace. -/
def manifestName : FileName := PathName.ofText "Cargo.toml"

/-- The files of the project at a path, given what is there: a folder, a manifest, or a single file. -/
def files (fs : FileSystem) (config : Config) (path : String) (t : FileTree) :
    Except Failure (List SourceFile) :=
  let place := PathName.ofText path
  if t.isFolder then Loader.loadFolder fs config.excluded place
  else if PathName.fileName? place = some manifestName then
    Loader.loadWorkspace fs config.excluded path
  else Loader.loadFiles fs [place]

section

variable [Rust.Complaints]

/-- The units of the project at a path. -/
def units (fs : FileSystem) (config : Config) (path : String) : Except Refusal (List SourceUnit) := do
  match fs.find (PathName.ofText path) with
  | .error _ => throw (.noProject path)
  | .ok t =>
    match files fs config path t with
    | .ok files => return unitsOf .byExtension files
    | .error f => throw (.failed f)

/-- The report on the project at a path. -/
def report (fs : FileSystem) (config : Config) (path : String) (options : Options) :
    Except Refusal Report := do
  let us ← units fs config path
  match Report.ofUnits us options with
  | .ok r => return r
  | .error o => throw (.overflow o)

end

/-- The parameters of a command. -/
def params {α : Type} (request : Request) (decode : Json → Except Json.Cause α) : Except Refusal α :=
  match request.params with
  | none => .error (.missingParams request.command)
  | some v =>
    match decode v with
    | .ok a => .ok a
    | .error cause => .error (.wrongParams request.command cause)

section

variable [Rust.Complaints]

/-- The answer to a request for a report. -/
def analyze (fs : FileSystem) (config : Config) (p : AnalyzeParams) : Except Refusal Json := do
  let base := config.options
  let options : Options :=
    { coupling := p.coupling.getD base.coupling
      threshold := p.threshold.getD base.threshold
      scope := (p.className.map Scope.only).getD base.scope }
  return (← report fs config p.path options).toJson

/-- The answer to a request for a coupling. -/
def coupling (fs : FileSystem) (config : Config) (p : CouplingParams) : Except Refusal Json := do
  let r ← report fs config p.path { config.options with coupling := true }
  return .obj
    [("source_to_target", .float (r.coupling.between p.source p.target)),
     ("target_to_source", .float (r.coupling.between p.target p.source)),
     ("total_inter_class_calls", .nat r.coupling.total)]

/-- The data that answer a request. -/
def answer (fs : FileSystem) (config : Config) (request : Request) : Except Refusal Json := do
  if request.command = "PING" then return .str "PONG"
  else if request.command = "ANALYZE" then
    analyze fs config (← params request AnalyzeParams.decode)
  else if request.command = "COUPLING" then
    coupling fs config (← params request CouplingParams.decode)
  else if request.command = "SHUTDOWN" then return .str "Shutting down..."
  else throw (.unknownCommand request.command)

end

/-- What a session does with a line. -/
inductive Reply where
  /-- Nothing: the line is blank. -/
  | silent
  /-- An answer. -/
  | line (text : String)
  /-- An answer, after which the session stops. -/
  | last (text : String)
  /-- The session breaks off. -/
  | broken
deriving DecidableEq, Repr

/-- The line with the data that answer a request. -/
def success (data : Json) : String :=
  (Json.sorted (.obj [("status", .str "success"), ("data", data)])).compact

/-- The line that refuses a request. -/
def refuse (message : String) : String :=
  (Json.sorted (.obj [("status", .str "error"), ("message", .str message)])).compact

/-- The line that answers a request, unless the session breaks off. -/
def respond? : Except Refusal Json → Option String
  | .ok data => some (success data)
  | .error (.overflow _) => none
  | .error r => some (refuse r.message)

section

variable [Rust.Complaints]

/-- What a session does with a line. -/
def reply (fs : FileSystem) (config : Config) (line : String) : Reply :=
  let line := Text.trim line
  if line.isEmpty then .silent
  else
    match Request.parse line with
    | .error e => .line (refuse (Refusal.notARequest e).message)
    | .ok request =>
      match respond? (answer fs config request) with
      | none => .broken
      | some text => if request.command = "SHUTDOWN" then .last text else .line text

/-- The answers to some lines. -/
def replies (fs : FileSystem) (config : Config) : List String → List String
  | [] => []
  | line :: rest =>
    match reply fs config line with
    | .silent => replies fs config rest
    | .line text => text :: replies fs config rest
    | .last text => [text]
    | .broken => []

end

/-- The path that a line asks about. -/
def pathOf? (line : String) : Option String :=
  match Request.parse (Text.trim line) with
  | .ok ⟨_, some (.obj members)⟩ =>
    match lookupIn? "path" members.reverse with
    | some (.str path) => some path
    | _ => none
  | .ok ⟨_, some (.arr (.str path :: _))⟩ => some path
  | _ => none

/-- The lines of what is received. -/
def received (text : String) : List String :=
  (Text.splitAt '\n' text.toList).map String.ofList

end Session

end ClassGraph
