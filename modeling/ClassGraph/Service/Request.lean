import ClassGraph.Json.Reader
import ClassGraph.Json.Sorted

/-!
# Requests

A request is a line of JSON: a record with a command and perhaps parameters. The parameters of a
command are a record too, given by names or as a list; their members are looked at in the order of
their names.
-/

set_option autoImplicit false

namespace ClassGraph

open Json

/-- A command with its parameters, if there are any. -/
structure Request where
  command : String
  params : Option Json

namespace Request

/-- The value of one field of a request. -/
inductive Field where
  | command (name : String)
  | params (value : Option Json)

/-- Makes a request out of its fields. -/
def ofFields (seen : List (String × Field)) : Except Cause Request := do
  let params :=
    match lookupIn? "params" seen with
    | some (.params value) => value
    | _ => none
  match ← Read.required "command" seen with
  | .command name => pure ⟨name, params⟩
  | .params _ => throw (.missingField "command")

/-- Reads a request. -/
def reader : Nat → Read Request :=
  Read.record "CommandReq"
    [("command", fun _ => Field.command <$> Read.text),
     ("params", fun depth => Field.params <$> Read.optional (Read.value depth))]
    ofFields

/-- The request of a line. -/
def parse (line : String) : Except Json.Error Request := Read.fromText reader line

end Request

/-! ## Parameters -/

namespace Params

/-- The kinds of parameters. -/
inductive Kind where
  | text
  | number
  | flag
deriving DecidableEq, Repr

/-- The value of a parameter. -/
inductive Value where
  | text (s : String)
  | number (n : Int)
  | flag (b : Bool)

/-- A parameter: its name, its kind, and whether it may be missing or null. -/
structure Spec where
  name : String
  kind : Kind
  optional : Bool

/-- A value of a certain kind. -/
def decodeKind (kind : Kind) (v : Json) : Except Cause Value :=
  match kind, v with
  | .text, .str s => .ok (.text s)
  | .text, v => .error (.wrongType (Found.ofJson v) "a string")
  | .flag, .bool b => .ok (.flag b)
  | .flag, v => .error (.wrongType (Found.ofJson v) "a boolean")
  | .number, .num n => n.toSigned.map .number
  | .number, v => .error (.wrongType (Found.ofJson v) "i64")

/-- The value of a parameter, if it has one. -/
def decode (spec : Spec) (v : Json) : Except Cause (Option Value) :=
  match spec.optional, v with
  | true, .null => .ok none
  | _, v => (decodeKind spec.kind v).map some

/-- The values of parameters given by names; names that are not known count for nothing. -/
def decodeMembers (specs : List Spec) :
    List (String × Json) → Except Cause (List (String × Option Value))
  | [] => .ok []
  | (name, v) :: rest =>
    match specs.find? fun s => s.name = name with
    | none => decodeMembers specs rest
    | some spec => do
      let value ← decode spec v
      return (name, value) :: (← decodeMembers specs rest)

/-- The values of parameters given as a list, of which so many have been read. -/
def decodeItems (expected : String) :
    Nat → List Spec → List Json → Except Cause (List (String × Option Value))
  | _, [], _ => .ok []
  | index, _ :: _, [] => .error (.wrongLength index expected)
  | index, spec :: specs, v :: rest => do
    let value ← decode spec v
    return (spec.name, value) :: (← decodeItems expected (index + 1) specs rest)

/-- Every parameter that has to be there is. -/
def requireAll (specs : List Spec) (values : List (String × Option Value)) : Except Cause Unit :=
  match specs.find? fun s => !s.optional && (lookupIn? s.name values).isNone with
  | some s => .error (.missingField s.name)
  | none => .ok ()

/-- The values of the parameters of a record. -/
def decodeRecord (name : String) (specs : List Spec) (v : Json) :
    Except Cause (List (String × Option Value)) :=
  match v.sorted with
  | .obj members => do
    let values ← decodeMembers specs members
    requireAll specs values
    return values
  | .arr items => do
    let expected := "struct " ++ name ++ " with " ++ toString specs.length ++ " elements"
    let values ← decodeItems expected 0 specs items
    if specs.length < items.length then
      throw (.wrongLength items.length "fewer elements in array")
    return values
  | v => .error (.wrongType (Found.ofJson v) ("struct " ++ name))

/-- A text among the values. -/
def text? (name : String) (values : List (String × Option Value)) : Option String :=
  match lookupIn? name values with
  | some (some (.text s)) => some s
  | _ => none

/-- A number among the values. -/
def number? (name : String) (values : List (String × Option Value)) : Option Int :=
  match lookupIn? name values with
  | some (some (.number n)) => some n
  | _ => none

/-- A truth value among the values. -/
def flag? (name : String) (values : List (String × Option Value)) : Option Bool :=
  match lookupIn? name values with
  | some (some (.flag b)) => some b
  | _ => none

end Params

/-- What to analyze, and with which changes to the settings. -/
structure AnalyzeParams where
  path : String
  threshold : Option Int
  coupling : Option Bool
  className : Option String
deriving DecidableEq, Repr

/-- The parameters of an analysis. -/
def AnalyzeParams.decode (v : Json) : Except Cause AnalyzeParams := do
  let values ← Params.decodeRecord "AnalyzeParams"
    [⟨"path", .text, false⟩, ⟨"threshold", .number, true⟩, ⟨"coupling", .flag, true⟩,
     ⟨"class", .text, true⟩] v
  return ⟨(Params.text? "path" values).getD "", Params.number? "threshold" values,
    Params.flag? "coupling" values, Params.text? "class" values⟩

/-- Between which classes to measure the coupling, and where. -/
structure CouplingParams where
  path : String
  source : String
  target : String
deriving DecidableEq, Repr

/-- The parameters of a coupling. -/
def CouplingParams.decode (v : Json) : Except Cause CouplingParams := do
  let values ← Params.decodeRecord "CouplingParams"
    [⟨"path", .text, false⟩, ⟨"source", .text, false⟩, ⟨"target", .text, false⟩] v
  let text (name : String) := (Params.text? name values).getD ""
  return ⟨text "path", text "source", text "target"⟩

end ClassGraph
