import ClassGraph.Files.System

/-!
# What can stop a run
-/

set_option autoImplicit false

namespace ClassGraph

/-- Why a run stops. -/
inductive Failure where
  /-- There is nothing to analyze. -/
  | noInput
  /-- A configuration cannot be read, or a report cannot be written. -/
  | io (path : String) (fault : Fault)
  /-- A configuration is not valid. -/
  | config (detail : String)
  /-- A project file cannot be read. -/
  | unreadable (path : String) (fault : Fault)
  | notFolder (path : String)
  /-- The package manager fails on a manifest, with an error of its own. -/
  | workspace (path detail : String)
deriving DecidableEq, Repr

namespace Failure

/-- What is said about a failure, and then about its cause. -/
def chain : Failure → List String
  | .noInput =>
    ["no input: provide at least one source file, folder, workspace manifest or declaration dump"]
  | .io path fault => ["I/O error on " ++ path ++ ": " ++ fault.message, fault.message]
  | .config detail => ["configuration error: " ++ detail]
  | .unreadable path fault => ["Failed to read file " ++ path, fault.message]
  | .notFolder path => [path ++ " is not a directory"]
  | .workspace path detail => ["Failed to read workspace " ++ path, "workspace error: " ++ detail]

/-- The failure in one line, without its cause. -/
def message (f : Failure) : String := (f.chain.head?).getD ""

/-- The failure in one line, with its cause. -/
def oneLine (f : Failure) : String := Text.joinWith ": " f.chain

/-- A cause as a run reports it: each of its lines is indented. -/
def indented (cause : String) : String := "    " ++ Text.replaceWith '\n' "\n    " cause ++ "\n"

/-- The failure as a run reports it. -/
def report (f : Failure) : String :=
  match f.chain with
  | [] => ""
  | top :: causes =>
    "Error: " ++ top ++ "\n"
      ++ (if causes.isEmpty then ""
        else "\nCaused by:\n" ++ String.join (causes.map indented))

end Failure

end ClassGraph
