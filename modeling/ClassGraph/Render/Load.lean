import ClassGraph.Json.Reader
import ClassGraph.Measure.Report

/-!
# Reading graphs, counters and options back

The JSON forms of graphs, counters and options, read from text.
-/

set_option autoImplicit false

namespace ClassGraph

open Json

/-- Reads a call. -/
def Call.reader : Nat → Read Call :=
  Read.record "MethodCall"
    [("callee_name", fun _ => Read.text), ("receiver_type", fun _ => Read.text)]
    fun seen => do
      pure ⟨← Read.required "callee_name" seen, ← Read.required "receiver_type" seen⟩

/-- Reads a call graph. -/
def CallGraph.reader (depth : Nat) : Read CallGraph :=
  CallGraph.mk <$> Read.tableOf (Read.tableOf (Read.listOf Call.reader)) depth

/-- The call graph of a JSON text. -/
def CallGraph.parse (s : String) : Except Json.Error CallGraph := Read.fromText CallGraph.reader s

/-- Reads counters. -/
def Counters.reader : Nat → Read Counters :=
  Read.record "PerClassCounters"
    [("method_counts", Read.tableOf fun _ => Read.count),
     ("attribute_counts", Read.tableOf fun _ => Read.count)]
    fun seen => do
      pure ⟨← Read.required "method_counts" seen, ← Read.required "attribute_counts" seen⟩

/-- The counters of a JSON text. -/
def Counters.parse (s : String) : Except Json.Error Counters := Read.fromText Counters.reader s

/-- Reads a scope: the name `project`, or `class` with a name. -/
def Scope.reader : Nat → Read Scope :=
  Read.variant ["project", "class"]
    (fun name =>
      if name = "project" then .ok .project
      else .error (.wrongType .variantName "newtype variant"))
    fun name _ =>
      if name = "project" then do
        Read.nothing
        pure .project
      else Scope.only <$> Read.text

/-- The value of one field of the options. -/
inductive Options.Field where
  | coupling (value : Bool)
  | threshold (value : Int)
  | scope (value : Scope)

/-- Makes options out of their fields; the first that is missing is complained about. -/
def Options.ofFields (seen : List (String × Options.Field)) : Except Cause Options := do
  match ← Read.required "coupling_enabled" seen with
  | .coupling coupling =>
    match ← Read.required "method_threshold" seen with
    | .threshold threshold =>
      match ← Read.required "scope" seen with
      | .scope scope => pure ⟨coupling, threshold, scope⟩
      | _ => throw (.missingField "scope")
    | _ => throw (.missingField "method_threshold")
  | _ => throw (.missingField "coupling_enabled")

/-- Reads options. -/
def Options.reader : Nat → Read Options :=
  Read.record "AnalyzeOptions"
    [("coupling_enabled", fun _ => Options.Field.coupling <$> Read.bool),
     ("method_threshold", fun _ => Options.Field.threshold <$> Read.signed),
     ("scope", fun depth => Options.Field.scope <$> Scope.reader depth)]
    Options.ofFields

/-- The options of a JSON text. -/
def Options.parse (s : String) : Except Json.Error Options := Read.fromText Options.reader s

end ClassGraph
