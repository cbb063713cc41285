import ClassGraph.Command.Arguments

/-!
# Help

The texts that a command line can ask for.
-/

set_option autoImplicit false

namespace ClassGraph.Help

/-- The name of the program. -/
def program : String := "hotgraph"

/-- The version of the program. -/
def version : String := program ++ " 0.1.0\n"

/-- What the program is for. -/
def about : String :=
  program ++ " - Class-level call graphs and structural metrics: "
    ++ "hot classes, inter-class coupling and threshold selection."

open Arguments

/-- What an option does. -/
def purpose (long : Bool) : Key → String
  | .input => "Input source file path (can specify multiple)"
  | .folder => "Input source folder(s)"
  | .workspace => "Workspace Cargo.toml"
  | .declarations => "JSON declaration dump(s) written by an external parser"
  | .output => "Output file path (stdout when omitted)"
  | .format => "Output format"
  | .className => "Only analyze the class with this name"
  | .threshold => "Report classes with strictly more methods than this"
  | .noCoupling => "Skip the coupling analysis"
  | .config => "Config file (default: ./hotgraph.toml when present)"
  | .jobs => "Worker threads (default: half the cores)"
  | .verbose => "Debug logging (RUST_LOG takes precedence)"
  | .serve => "Serve the JSON command protocol on this port instead of analyzing once"
  | .help => if long then "Print help (see a summary with '-h')" else "Print help (see more with '--help')"
  | .version => "Print version"

/-- What a format is. -/
def formatPurpose : OutputFormat → String
  | .dot => "Graphviz call graph"
  | .json => "Full analysis report"
  | .graphJson => "Call graph as JSON nodes and edges"
  | .couplingJson => "Coupling graph as JSON nodes and weighted edges"
  | .text => "Human readable summary"

/-- So many blanks. -/
def blanks (n : Nat) : String := String.ofList (List.replicate n ' ')

/-- How an option is written. -/
def spelling (key : Key) : String :=
  let letter :=
    match key.letter? with
    | some c => String.ofList ['-', c] ++ ", "
    | none => blanks 4
  let value :=
    if key.takesValue then " <" ++ String.ofList (key.name.toList.map Char.toUpper) ++ ">" else ""
  "  " ++ letter ++ "--" ++ key.name ++ value

/-- The formats in one line. -/
def formatNames : String :=
  " [possible values: " ++ Text.joinWith ", " (OutputFormat.all.map OutputFormat.name) ++ "]"

/-- The formats, one in a line, with what they are. -/
def formatLines : List String :=
  let width := (OutputFormat.all.map fun f => f.name.length).foldl max 0
  "" :: (blanks 10 ++ "Possible values:") :: OutputFormat.all.map fun f =>
    blanks 10 ++ "- " ++ f.name ++ ":" ++ blanks (width - f.name.length + 1) ++ formatPurpose f

/-- The lines about an option. -/
def lines (long : Bool) (key : Key) : List String :=
  let values := if key = .format && !long then formatNames else ""
  let more := if key = .format && long then formatLines else []
  spelling key :: (blanks 10 ++ purpose long key ++ values) :: more

/-- The help text. -/
def text (long : Bool) : String :=
  let between := if long then "\n\n" else "\n"
  about ++ "\n\nUsage: " ++ program ++ " [OPTIONS]\n\nOptions:\n"
    ++ Text.joinWith between (Key.all.map fun key => Text.joinWith "\n" (lines long key)) ++ "\n"

end ClassGraph.Help
