import ClassGraph.Command.Help
import ClassGraph.Project.Config
import ClassGraph.Project.Loader
import ClassGraph.Project.Units

/-!
# Runs

What a command line leads to, given the files and the environment. The settings come first, then
the project files, then the report.
-/

set_option autoImplicit false

namespace ClassGraph

/-- The settings of a configuration with those of the command line on top. -/
def Config.withArguments (c : Config) (a : Arguments) : Config :=
  { c with
    threshold := a.threshold.getD c.threshold
    coupling := c.coupling && !a.noCoupling
    jobs := a.jobs.or c.jobs
    format := a.format.getD c.format }

/-- The project files that a command line names: single files, folders, a workspace, and files with
declarations. -/
def Loader.loadArguments (fs : FileSystem) (excluded : List String) (a : Arguments) :
    Except Failure (List SourceFile) := do
  let files ← loadFiles fs (a.inputs.map PathName.ofText)
  let folders ← a.folders.mapM fun folder => loadFolder fs excluded (PathName.ofText folder)
  let workspaces ← a.workspace.toList.mapM (loadWorkspace fs excluded)
  let declarations ← loadFiles fs (a.declarations.map PathName.ofText)
  return files ++ folders.flatten ++ workspaces.flatten ++ declarations

/-- The paths at which a run with some arguments may look, and whether it looks at what is below. -/
def Arguments.paths (a : Arguments) (environment : Option String) : List (String × Bool) :=
  let files := a.inputs ++ a.declarations ++ a.config.toList ++ environment.toList
    ++ [Config.localFile] ++ a.output.toList ++ a.output.toList.map (· ++ "/..")
  a.folders.map (·, true) ++ files.map (·, false)

/-- What a run leads to. -/
inductive Outcome where
  /-- A text that is asked for. -/
  | shown (text : String)
  /-- The command line is wrong. -/
  | usage
  | failed (failure : Failure)
  /-- Counting did not fit. -/
  | overflow (o : Overflow)
  /-- A report to print. -/
  | printed (text : String)
  /-- A report in a file, and the files with it. -/
  | wrote (path text : String) (files : FileSystem)
  /-- Requests are to be answered at a network socket. -/
  | serving (socketNumber : Nat) (config : Config)

namespace Outcome

/-- The exit code. -/
def code : Outcome → Nat
  | .usage => 2
  | .failed _ => 1
  | .overflow _ => 101
  | .shown _ | .printed _ | .wrote .. | .serving .. => 0

/-- What is printed. -/
def printedText : Outcome → String
  | .shown text => text
  | .printed text => text ++ "\n"
  | _ => ""

/-- The files after the run that started with `before`. -/
def filesAfter (before : FileSystem) : Outcome → FileSystem
  | .wrote _ _ files => files
  | _ => before

end Outcome

/-- The report on some project files, written to a file. -/
def writeReport (fs : FileSystem) (path text : String) : Except Failure FileSystem :=
  match fs.write (PathName.ofText path) (Text.Utf8.encode text) with
  | .ok fs => .ok fs
  | .error fault => .error (.io path fault)

/-- Carries out arguments with settings. -/
def runWith [Rust.Complaints] (fs : FileSystem) (config : Config) (a : Arguments) : Outcome :=
  match a.serve with
  | some socketNumber => .serving socketNumber config
  | none =>
    if !a.hasInput then .failed .noInput
    else
      match Loader.loadArguments fs config.excluded a with
      | .error f => .failed f
      | .ok files =>
        let options := { config.options with scope := (a.className.map Scope.only).getD .project }
        match Report.ofUnits (unitsOf .byExtension files) options with
        | .error o => .overflow o
        | .ok report =>
          let text := report.render config.format
          match a.output with
          | none => .printed text
          | some path =>
            match writeReport fs path text with
            | .ok fs => .wrote path text fs
            | .error f => .failed f

/-- Carries out a command line. -/
def run [Rust.Complaints] (fs : FileSystem) (environment : Option String) (words : List String) : Outcome :=
  match Arguments.parse words with
  | .error .usage => .usage
  | .error (.help long) => .shown (Help.text long)
  | .error .version => .shown Help.version
  | .ok a =>
    match Config.resolve fs a.config environment with
    | .error f => .failed f
    | .ok config => runWith fs (config.withArguments a) a

end ClassGraph
