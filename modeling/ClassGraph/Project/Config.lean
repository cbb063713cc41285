import ClassGraph.Measure.Report
import ClassGraph.Project.Failure
import ClassGraph.Render.Format
import ClassGraph.Toml.Reader

/-!
# Configuration

Settings come from a TOML document; what it leaves out has a default, and what is not known in it is
left alone.
-/

set_option autoImplicit false

namespace ClassGraph

/-- The settings of a run. -/
structure Config where
  coupling : Bool
  threshold : Int
  /-- How many workers to use, if it matters. -/
  jobs : Option Nat
  /-- Names of folders that are left out. -/
  excluded : List String
  format : OutputFormat
deriving DecidableEq, Repr

namespace Config

/-- The settings without a configuration. -/
def default : Config := ⟨true, 2, none, [], .json⟩

instance : Inhabited Config := ⟨default⟩

/-! ## Settings in a document -/

/-- A setting that may be left out. -/
def setting? {α : Type} (members : List (String × Toml)) (name : String) (default : α)
    (decode : Toml → Option α) : Option α :=
  match Toml.find? name members with
  | none => some default
  | some v => decode v

/-- A truth value. -/
def bool? : Toml → Option Bool
  | .bool b => some b
  | _ => none

/-- An integer. -/
def int? : Toml → Option Int
  | .int n => some n
  | _ => none

/-- A number of workers. -/
def jobs? : Toml → Option (Option Nat)
  | .int n => if 0 ≤ n then some (some n.toNat) else none
  | _ => none

/-- A text. -/
def text? : Toml → Option String
  | .str s => some s
  | _ => none

/-- A list of texts. -/
def texts? : Toml → Option (List String)
  | .arr items => items.mapM text?
  | _ => none

/-- Has the value nothing in it? -/
def isEmpty : Toml → Bool
  | .arr [] => true
  | .table [] => true
  | _ => false

/-- A format: its name, or a table with its name and nothing in it. -/
def format? : Toml → Option OutputFormat
  | .str name => OutputFormat.ofName? name
  | .table [(name, v)] => if isEmpty v then OutputFormat.ofName? name else none
  | _ => none

/-- The settings in a document. -/
def ofMembers? (members : List (String × Toml)) : Option Config := do
  let coupling ← setting? members "coupling" default.coupling bool?
  let threshold ← setting? members "method_threshold" default.threshold int?
  let jobs ← setting? members "jobs" default.jobs jobs?
  let excluded ← setting? members "exclude_dirs" default.excluded texts?
  let format ← setting? members "format" default.format format?
  pure ⟨coupling, threshold, jobs, excluded, format⟩

/-- The settings of a text. -/
def parse? (text : String) : Option Config := (Toml.parse? text).bind ofMembers?

/-! ## Settings in a file -/

/-- The file that is looked for in the working folder. -/
def localFile : String := "hotgraph.toml"

/-- The variable of the environment that names a file. -/
def environmentVariable : String := "HOTGRAPH_CONFIG"

/-- The settings in a file. -/
def load (fs : FileSystem) (path : String) : Except Failure Config :=
  match fs.readText (PathName.ofText path) with
  | .error fault => .error (.io path fault)
  | .ok text =>
    match parse? text with
    | some config => .ok config
    | none => .error (.config (path ++ ": not a valid configuration"))

/-- The settings of a run: from the file that is asked for, from the one that the environment names,
from the one in the working folder, or the default. -/
def resolve (fs : FileSystem) (asked environment : Option String) : Except Failure Config :=
  match asked, environment with
  | some path, _ => load fs path
  | none, some path => load fs path
  | none, none => if fs.isFile (PathName.ofText localFile) then load fs localFile else .ok default

/-- What to measure with the settings. -/
def options (c : Config) : Options := ⟨c.coupling, c.threshold, .project⟩

end Config

end ClassGraph
