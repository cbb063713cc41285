import ClassGraph.Declaration.Basic
import ClassGraph.Text.Blank

/-!
# Receivers

A call goes to its receiver type if that is known, else to the class that declares the callee, else
it stays in the class it is written in. A blank name counts as unknown.
-/

set_option autoImplicit false

namespace ClassGraph

/-- A name without the blanks around it, if anything is left. -/
def nonBlank? : Option String → Option String
  | none => none
  | some s => if Text.trim s = "" then none else some (Text.trim s)

/-- The class a call written in `enclosing` goes to. -/
def Invocation.receiver (i : Invocation) (enclosing : String) : String :=
  match nonBlank? i.receiverType with
  | some receiver => receiver
  | none =>
    match nonBlank? i.declaringClass with
    | some declaring => declaring
    | none => enclosing

end ClassGraph
