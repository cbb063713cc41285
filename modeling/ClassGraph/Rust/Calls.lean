import ClassGraph.Declaration.Basic
import ClassGraph.Rust.Index
import ClassGraph.Text.Case

/-!
# The calls in a body

A walk goes through a body in the order of its text and records every call, the outer one before the
calls in its receiver and arguments. It keeps the labels of the names that are bound on its way: by
parameters, by `let`, by closures and by `for`. A binding stays until another one takes its name.
-/

set_option autoImplicit false

namespace ClassGraph.Rust

/-! ## Bindings -/

/-- The labels of the names that are bound. -/
structure Bindings where
  entries : List (String × Label)
deriving DecidableEq, Repr

namespace Bindings

/-- No name is bound. -/
def empty : Bindings := ⟨[]⟩

/-- The label of a name. -/
def find? (b : Bindings) (name : String) : Option Label := b.entries.lookup name

/-- Binds a name; without a label it is unbound. -/
def set (b : Bindings) (name : String) : Option Label → Bindings
  | some label => ⟨(name, label) :: b.entries⟩
  | none => ⟨b.entries.filter fun e => e.1 ≠ name⟩

/-- Binds the names of a pattern to a label. -/
def bind (owner : String) (b : Bindings) : Pat → Option Label → Bindings
  | .ident name _, label => b.set name label
  | .typed p t, label => b.bind owner p ((t.label? owner).or label)
  | .reference p, label => b.bind owner p label
  | .paren p, label => b.bind owner p label
  | .other _, _ => b

/-- Binds a parameter. -/
def bindParam (owner : String) (b : Bindings) : Param → Bindings
  | .receiver _ => b.set "self" (some (Label.named owner))
  | .typed _ p t => b.bind owner p (t.label? owner)

/-- The bindings at the start of a body. -/
def ofParams (owner : String) (params : List Param) : Bindings :=
  params.foldl (bindParam owner) empty

end Bindings

/-! ## Labels of expressions -/

/-- Methods that give something of the type of their receiver. -/
def passingMethods : List String :=
  ["iter", "iter_mut", "into_iter", "clone", "as_ref", "as_mut", "borrow", "borrow_mut", "lock", "read",
   "write", "to_owned"]

/-- Methods that give the element of a container. -/
def openingMethods : List String := ["unwrap", "expect", "unwrap_or_default"]

/-- What a walk knows of its surroundings: the index of the project and the type it is in. -/
structure Surroundings where
  index : Index
  owner : String

namespace Surroundings

/-- The type that a segment of a path names: `Self` is the owner, and a capital starts a type. -/
def qualifier? (s : Surroundings) (segment : String) : Option String :=
  if segment = "Self" then some s.owner
  else if Text.startsUppercase segment then some segment
  else none

/-- The last two segments of a path. -/
def lastTwo? (segments : List String) : Option (String × String) :=
  match segments.reverse with
  | function :: qualifier :: _ => some (qualifier, function)
  | _ => none

/-- The label of what a call to a path gives. -/
def pathResult? (s : Surroundings) (segments : List String) : Option Label :=
  match lastTwo? segments, segments with
  | some (qualifier, function), _ => (s.qualifier? qualifier).bind fun owner => s.index.result? owner function
  | none, [single] => if Text.startsUppercase single then some (Label.named single) else none
  | none, _ => none

/-- The label of what a method gives on a receiver with a label. -/
def methodResult? (s : Surroundings) (receiver : Label) (method : String) : Option Label :=
  if method ∈ passingMethods then some receiver
  else if method ∈ openingMethods then receiver.inner?
  else s.index.result? receiver.name method

/-- The label of an expression. -/
def label? (s : Surroundings) (b : Bindings) : Expr → Option Label
  | .path [name] true _ => b.find? name
  | .path _ _ _ => none
  | .field base member => (s.label? b base).bind fun l => s.index.field? l.name member
  | .methodCall receiver method _ _ => (s.label? b receiver).bind fun l => s.methodResult? l method
  | .call (.path segments _ _) _ => s.pathResult? segments
  | .call _ _ => none
  | .record name _ => (s.qualifier? name).map Label.named
  | .reference e => s.label? b e
  | .paren e => s.label? b e
  | .group _ e => s.label? b e
  | .deref e => s.label? b e
  | .attempt e => (s.label? b e).bind Label.inner?
  | .cast _ t => t.label? s.owner
  | .closure _ _ _ _ => none
  | .forLoop _ _ _ => none
  | .block _ => none
  | .other _ => none

/-- A method call as it is recorded: by the label of its receiver, or else by the only type that
declares the method. -/
def methodCall (s : Surroundings) (b : Bindings) (receiver : Expr) (method : String) : Invocation :=
  match s.label? b receiver with
  | some l => ⟨method, some l.name, none⟩
  | none => ⟨method, none, s.index.uniqueDeclarer? method⟩

/-- A call to a path as it is recorded; a constructor is not. -/
def pathCall? (s : Surroundings) (segments : List String) : Option Invocation :=
  match segments.getLast? with
  | none => none
  | some callee =>
    if Text.startsUppercase callee then none
    else some ⟨callee, none, (lastTwo? segments).bind fun (qualifier, _) => s.qualifier? qualifier⟩

end Surroundings

/-! ## The walk -/

/-- How far a walk has come: what is bound, and the calls recorded so far. -/
structure Walk where
  bindings : Bindings
  calls : List Invocation
deriving DecidableEq, Repr

namespace Walk

/-- Records a call. -/
def record (w : Walk) (call : Invocation) : Walk := { w with calls := w.calls ++ [call] }

/-- Records a call to a path. -/
def recordPath (s : Surroundings) (w : Walk) : Expr → Walk
  | .path segments _ _ =>
    match s.pathCall? segments with
    | some call => w.record call
    | none => w
  | _ => w

/-- Binds the names of a pattern. -/
def bind (s : Surroundings) (w : Walk) (p : Pat) (label : Option Label) : Walk :=
  { w with bindings := w.bindings.bind s.owner p label }

mutual

/-- Walks through an expression. -/
def expr (s : Surroundings) (w : Walk) : Expr → Walk
  | .path _ _ ps => parts s w ps
  | .field base _ => expr s w base
  | .methodCall receiver method generics args =>
    let w := w.record (s.methodCall w.bindings receiver method)
    parts s (parts s (expr s w receiver) generics) args
  | .call callee args => parts s (expr s (recordPath s w callee) callee) args
  | .record _ ps => parts s w ps
  | .reference e => expr s w e
  | .paren e => expr s w e
  | .group before e => expr s (parts s w before) e
  | .deref e => expr s w e
  | .attempt e => expr s w e
  | .cast e t => type s (expr s w e) t
  | .closure before params output body =>
    let w := params.foldl (fun w p => w.bind s p none) w
    expr s (parts s (patterns s (parts s w before) params) output) body
  | .forLoop p iterated body =>
    let w := expr s w iterated
    parts s (w.bind s p ((s.label? w.bindings iterated).bind Label.inner?)) body
  | .block ps => parts s w ps
  | .other ps => parts s w ps

/-- Walks through a type. -/
def type (s : Surroundings) (w : Walk) : Ty → Walk
  | .reference t => type s w t
  | .paren t => type s w t
  | .group t => type s w t
  | .slice t => type s w t
  | .array t length => expr s (type s w t) length
  | .traits _ ps => parts s w ps
  | .path before _ args => arguments s (parts s w before) args
  | .other ps => parts s w ps

/-- Walks through an argument in angle brackets. -/
def argument (s : Surroundings) (w : Walk) : Arg → Walk
  | .type t => type s w t
  | .other ps => parts s w ps

/-- Walks through arguments in angle brackets. -/
def arguments (s : Surroundings) (w : Walk) : List Arg → Walk
  | [] => w
  | a :: rest => arguments s (argument s w a) rest

/-- Walks through a pattern, for the expressions in it. -/
def pattern (s : Surroundings) (w : Walk) : Pat → Walk
  | .ident _ ps => parts s w ps
  | .typed p t => type s (pattern s w p) t
  | .reference p => pattern s w p
  | .paren p => pattern s w p
  | .other ps => parts s w ps

/-- Walks through patterns. -/
def patterns (s : Surroundings) (w : Walk) : List Pat → Walk
  | [] => w
  | p :: rest => patterns s (pattern s w p) rest

/-- Walks through a part. A `let` binds after its value has been walked through; its pattern is not
walked through. -/
def part (s : Surroundings) (w : Walk) : Part → Walk
  | .expr e => expr s w e
  | .type t => type s w t
  | .pattern p => pattern s w p
  | .bind p none _ => w.bind s p none
  | .bind p (some e) none =>
    let w := expr s w e
    w.bind s p (s.label? w.bindings e)
  | .bind p (some e) (some diverge) =>
    let w := expr s (expr s w e) diverge
    w.bind s p (s.label? w.bindings e)

/-- Walks through parts in their order. -/
def parts (s : Surroundings) (w : Walk) : List Part → Walk
  | [] => w
  | p :: rest => parts s (part s w p) rest

end

end Walk

/-- The calls in the body of a function of a type. -/
def Function.calls (s : Surroundings) (f : Function) : List Invocation :=
  match f.body with
  | some body => (Walk.parts s ⟨Bindings.ofParams s.owner f.params, []⟩ body).calls
  | none => []

end ClassGraph.Rust
