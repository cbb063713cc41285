import ClassGraph.Declaration.Basic
import ClassGraph.Json.Reader

/-!
# Declaration dumps

A dump is a JSON text that lists units: an object with the member `units`, a list of units, or one
unit. The whole text is read first; then the three shapes are tried in this order. A record is an
object or a list of its fields in order; fields with a default may be missing, in a list only at its
end. A unit with an `error` is a skipped one.
-/

set_option autoImplicit false

namespace ClassGraph.Dump

/-! ## Records in a value -/

/-- The value of every field that is given, in the order of `names`. An object may hold other
members, but none of these twice; a list may be shorter, but not longer. -/
def fields? (names : List String) : Json → Option (List (Option Json))
  | .obj members =>
    let known := members.filter fun m => names.contains m.1
    if (known.map Prod.fst).Nodup then
      some (names.map fun name => (known.find? fun m => m.1 == name).map Prod.snd)
    else none
  | .arr items =>
    if items.length ≤ names.length then
      some (items.map some ++ List.replicate (names.length - items.length) none)
    else none
  | _ => none

/-- A text. -/
def text? : Json → Option String
  | .str s => some s
  | _ => none

/-- A text or `null`. -/
def optionalText? : Json → Option (Option String)
  | .null => some none
  | .str s => some (some s)
  | _ => none

/-- A count. -/
def count? : Json → Option Nat
  | .num n => n.toCount.toOption
  | _ => none

/-- A truth value. -/
def bool? : Json → Option Bool
  | .bool b => some b
  | _ => none

/-- A list. -/
def list? : Json → Option (List Json)
  | .arr items => some items
  | _ => none

/-- A field that may be missing. -/
def orDefault {α : Type} (decode : Json → Option α) (default : α) : Option Json → Option α
  | none => some default
  | some v => decode v

/-! ## Declarations in a value -/

/-- A call. -/
def invocation? (v : Json) : Option Invocation := do
  match ← fields? ["callee_name", "receiver_type", "declaring_class"] v with
  | [callee, receiver, declaring] =>
    return ⟨← text? (← callee), ← orDefault optionalText? none receiver,
      ← orDefault optionalText? none declaring⟩
  | _ => none

/-- An attribute. -/
def field? (v : Json) : Option FieldDecl := do
  match ← fields? ["name", "type_name"] v with
  | [name, typeName] => return ⟨← text? (← name), ← orDefault optionalText? none typeName⟩
  | _ => none

/-- A method. -/
def method? (v : Json) : Option MethodDecl := do
  match ← fields? ["name", "parameter_count", "line_count", "invocations"] v with
  | [name, parameters, lines, invocations] =>
    return ⟨← text? (← name), ← orDefault count? 0 parameters, ← orDefault count? 0 lines,
      ← (← orDefault list? [] invocations).mapM invocation?⟩
  | _ => none

/-- A type. -/
def type? (v : Json) : Option TypeDecl := do
  match ← fields? ["name", "is_interface", "methods", "fields"] v with
  | [name, isInterface, methods, fields] =>
    return ⟨← text? (← name), ← orDefault bool? false isInterface,
      ← (← orDefault list? [] methods).mapM method?, ← (← orDefault list? [] fields).mapM field?⟩
  | _ => none

/-- A unit. -/
def unit? (v : Json) : Option SourceUnit := do
  match ← fields? ["name", "package", "line_count", "types", "error"] v with
  | [name, package, lines, types, error] =>
    let name ← text? (← name)
    let package ← orDefault optionalText? none package
    let lines ← orDefault count? 0 lines
    let types ← (← orDefault list? [] types).mapM type?
    match ← orDefault optionalText? none error with
    | some reason => return .skipped ⟨name, reason⟩
    | none => return .read ⟨name, package, lines, types⟩
  | _ => none

/-- A list of units. -/
def units? : Json → Option (List SourceUnit)
  | .arr items => items.mapM unit?
  | _ => none

/-- An object with the units under `units`. -/
def wrapped? : Json → Option (List SourceUnit)
  | .obj members =>
    match members.filter fun m => m.1 == "units" with
    | [m] => units? m.2
    | _ => none
  | _ => none

/-- The units of a value, by the first shape that fits. -/
def ofJson? (v : Json) : Option (List SourceUnit) :=
  wrapped? v <|> units? v <|> (unit? v).map fun u => [u]

/-- Reads the units of a dump. That no shape fits is noticed before anything behind the value is. -/
def reader (depth : Nat) : Json.Read (List SourceUnit) := do
  match ofJson? (← Json.Read.value depth) with
  | some units => pure units
  | none => Json.Read.failPlaceless (.noShape "DumpShape")

/-- The units of a dump. -/
def parse (text : String) : Except Json.Error (List SourceUnit) :=
  Json.Read.fromText reader text

end ClassGraph.Dump
