import ClassGraph.Rust.Label
import ClassGraph.Table

/-!
# What the items of a project state

Items state the labels of fields, the labels of what methods return, and which types declare a
method. The index of a project is written by these statements one after another: a label replaces the
one before it, and a type is noted once among those that declare a method.
-/

set_option autoImplicit false

namespace ClassGraph.Rust

/-- A statement of an item. -/
inductive Fact where
  | field (owner name : String) (label : Label)
  | result (owner method : String) (label : Label)
  | declares (owner method : String)
deriving DecidableEq, Repr

/-- The name of a field, which may be its position. -/
def FieldItem.nameAt (f : FieldItem) (position : Nat) : String :=
  f.name.getD (toString position)

/-- What the fields of a type state. -/
def fieldFacts (owner : String) (fields : List FieldItem) : List Fact :=
  fields.zipIdx.filterMap fun (f, position) =>
    (f.type.label? owner).map fun label => .field owner (f.nameAt position) label

/-- What a function of a type states. -/
def Function.facts (owner : String) (f : Function) : List Fact :=
  (match f.output.bind fun t => t.label? owner with
    | some label => [.result owner f.name label]
    | none => [])
  ++ [.declares owner f.name]

/-- What a member of a type states. -/
def Member.facts (owner : String) : Member → List Fact
  | .function f => f.facts owner
  | _ => []

/-- The name of the type that an implementation is for. -/
def implementationOwner? (type : Ty) : Option String := (type.label? "").map Label.name

mutual

/-- What an item states. -/
def Item.facts : Item → List Fact
  | .record name _ fields => fieldFacts name fields
  | .traitItem name _ members => members.flatMap (Member.facts name)
  | .implementation _ type members =>
    match implementationOwner? type with
    | some owner => members.flatMap (Member.facts owner)
    | none => []
  | .module _ items => itemsFacts items
  | .enumeration _ _ => []
  | .other _ => []

/-- What some items state. -/
def itemsFacts : List Item → List Fact
  | [] => []
  | item :: items => item.facts ++ itemsFacts items

end

/-- Labels by the type they belong to and a name in it. -/
abbrev Labels := Table (Table Label)

/-- The label under a name of a type. -/
def Labels.label? (labels : Labels) (owner name : String) : Option Label :=
  (labels.find? owner).bind fun ofOwner => ofOwner.find? name

/-- Writes the label under a name of a type, whatever was there. -/
def Labels.set (labels : Labels) (owner name : String) (label : Label) : Labels :=
  labels.upsert owner fun old => (old.getD ∅).insert name label

/-- What is known of a project: the labels of fields, the labels of what methods return, and for
every method the types that declare it, in the order in which they came. -/
structure Index where
  fields : Labels
  results : Labels
  declarers : Table (List String)

namespace Index

/-- Nothing stated. -/
def empty : Index := ⟨∅, ∅, ∅⟩

/-- Notes a type among those that declare a method, unless it is there. -/
def noteDeclarer (owner : String) (owners : List String) : List String :=
  if owner ∈ owners then owners else owners ++ [owner]

/-- Adds a statement. -/
def add (index : Index) : Fact → Index
  | .field owner name label => { index with fields := index.fields.set owner name label }
  | .result owner method label => { index with results := index.results.set owner method label }
  | .declares owner method =>
    { index with
      declarers := index.declarers.upsert method fun old => noteDeclarer owner (old.getD []) }

/-- Adds statements in their order. -/
def addAll (index : Index) (facts : List Fact) : Index := facts.foldl add index

/-- The index of the items of some files. -/
def ofFiles (files : List (List Item)) : Index := files.foldl (fun i items => i.addAll (itemsFacts items)) empty

/-- The label of a field. -/
def field? (index : Index) (owner name : String) : Option Label := index.fields.label? owner name

/-- The label of what a method returns. -/
def result? (index : Index) (owner method : String) : Option Label :=
  index.results.label? owner method

/-- The type that declares a method, if there is exactly one. -/
def uniqueDeclarer? (index : Index) (method : String) : Option String :=
  match index.declarers.find? method with
  | some [owner] => some owner
  | _ => none

end Index

end ClassGraph.Rust
