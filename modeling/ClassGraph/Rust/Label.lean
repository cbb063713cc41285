import ClassGraph.Rust.Syntax

/-!
# Labels of types

A label is the name of a type as far as calls need it: references, parentheses and pointers are
looked through, and of a container the label of its elements is kept beside its own name.
-/

set_option autoImplicit false

namespace ClassGraph.Rust

/-- The name of a type, and for a container the name of its elements. -/
structure Label where
  name : String
  element : Option String
deriving DecidableEq, Repr

namespace Label

/-- A label that is only a name. -/
def named (name : String) : Label := ⟨name, none⟩

/-- The label of the elements of a container. -/
def inner? (l : Label) : Option Label := l.element.map named

/-- The pointers that calls look through. -/
def pointers : List String := ["Box", "Rc", "Arc"]

/-- The types of which the elements matter. -/
def containers : List String :=
  ["Option", "Result", "Vec", "VecDeque", "HashSet", "BTreeSet", "LinkedList"]

end Label

mutual

/-- The label of a type; `Self` stands for `self`. -/
def Ty.label? (self : String) : Ty → Option Label
  | .reference t => t.label? self
  | .paren t => t.label? self
  | .group t => t.label? self
  | .slice t => some ⟨"slice", (t.label? self).map Label.name⟩
  | .array t _ => some ⟨"array", (t.label? self).map Label.name⟩
  | .traits names _ => names.head?.map Label.named
  | .path _ name args =>
    if name = "Self" then some (Label.named self)
    else if name ∈ Label.pointers then argumentLabel? self args
    else if name ∈ Label.containers then
      some ⟨name, (argumentLabel? self args).map Label.name⟩
    else some (Label.named name)
  | .other _ => none

/-- The label of the first type among some arguments. -/
def argumentLabel? (self : String) : List Arg → Option Label
  | [] => none
  | .type t :: _ => t.label? self
  | .other _ :: rest => argumentLabel? self rest

end

end ClassGraph.Rust
