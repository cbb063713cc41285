/-!
# Syntax of Rust, as far as calls and types need it

The trees keep what tells where a call goes, and for everything else only its parts, in source
order. A construct without a rule of its own is `other` with its parts; a macro call is `other` with
its arguments if its body reads as expressions between commas, and without parts if it does not.

Expressions, types and patterns hold each other: a type may hold the length of an array, a pattern a
constant block, an expression a cast.
-/

set_option autoImplicit false

namespace ClassGraph.Rust

mutual

/-- An expression. -/
inductive Expr where
  /-- A path. It is `plain` when it is a single name without arguments. -/
  | path (segments : List String) (plain : Bool) (parts : List Part)
  /-- The field `base.member`. -/
  | field (base : Expr) (member : String)
  /-- The call `receiver.method::<generics>(args)`. -/
  | methodCall (receiver : Expr) (method : String) (generics args : List Part)
  /-- The call `callee(args)`. -/
  | call (callee : Expr) (args : List Part)
  /-- A record literal; `name` is the last segment of its path. -/
  | record (name : String) (parts : List Part)
  /-- A borrow. -/
  | reference (inner : Expr)
  /-- Parentheses. -/
  | paren (inner : Expr)
  /-- A grouping that is not written, behind the values of its attributes. -/
  | group (before : List Part) (inner : Expr)
  /-- A dereference. -/
  | deref (inner : Expr)
  /-- The operator `?`. -/
  | attempt (inner : Expr)
  /-- A cast. -/
  | cast (inner : Expr) (type : Ty)
  /-- A closure: what stands in front of its parameters, the parameters, its type and its body. -/
  | closure (before : List Part) (params : List Pat) (output : List Part) (body : Expr)
  /-- A `for` loop. -/
  | forLoop (pattern : Pat) (iterated : Expr) (body : List Part)
  /-- A block. -/
  | block (body : List Part)
  /-- Anything else. -/
  | other (parts : List Part)

/-- A type. -/
inductive Ty where
  | reference (inner : Ty)
  | paren (inner : Ty)
  | group (inner : Ty)
  | slice (element : Ty)
  | array (element : Ty) (length : Expr)
  /-- A trait object or an `impl` type, with the last segments of its traits. -/
  | traits (names : List String) (parts : List Part)
  /-- A path: what stands in front of its last segment, that segment, and its arguments. -/
  | path (before : List Part) (name : String) (args : List Arg)
  | other (parts : List Part)

/-- An argument in angle brackets. -/
inductive Arg where
  | type (ty : Ty)
  /-- A lifetime, a constant, or a binding of an associated item. -/
  | other (parts : List Part)

/-- A pattern. -/
inductive Pat where
  /-- A name, which may stand in front of another pattern. -/
  | ident (name : String) (parts : List Part)
  | typed (pattern : Pat) (type : Ty)
  | reference (pattern : Pat)
  | paren (pattern : Pat)
  | other (parts : List Part)

/-- A part of something: an expression, a type, a pattern, or a `let`. -/
inductive Part where
  | expr (e : Expr)
  | type (t : Ty)
  | pattern (p : Pat)
  /-- `let pattern = init else diverge;` -/
  | bind (pattern : Pat) (init : Option Expr) (diverge : Option Expr)

end

instance : Inhabited Expr := ⟨.other []⟩
instance : Inhabited Ty := ⟨.other []⟩
instance : Inhabited Pat := ⟨.other []⟩

/-! ## Items -/

/-- A parameter of a function. -/
inductive Param where
  /-- The receiver `self`. -/
  | receiver (parts : List Part)
  | typed (before : List Part) (pattern : Pat) (type : Ty)

/-- A function: what stands in front of its parameters, the parameters, what it returns and its
body. `lines` is the number of line ends between its first and its last token. -/
structure Function where
  name : String
  before : List Part
  params : List Param
  rest : List Part
  output : Option Ty
  body : Option (List Part)
  lines : Nat

/-- A field of a record type. -/
structure FieldItem where
  name : Option String
  before : List Part
  type : Ty

/-- A member of a trait or of an implementation. -/
inductive Member where
  | function (f : Function)
  | constant (name : String) (before : List Part) (type : Ty) (value : Option Expr)
  | other (parts : List Part)

/-- An item. -/
inductive Item where
  /-- A struct or a union. -/
  | record (name : String) (before : List Part) (fields : List FieldItem)
  | enumeration (name : String) (parts : List Part)
  | traitItem (name : String) (before : List Part) (members : List Member)
  | implementation (before : List Part) (type : Ty) (members : List Member)
  /-- A module, with its items if they stand in it. -/
  | module (before : List Part) (items : List Item)
  | other (parts : List Part)

instance : Inhabited Item := ⟨.other []⟩

/-! ## The parts of items, in source order -/

/-- The parts of a parameter. -/
def Param.parts : Param → List Part
  | .receiver parts => parts
  | .typed before pattern type => before ++ [.pattern pattern, .type type]

/-- The parts of a function. -/
def Function.parts (f : Function) : List Part :=
  f.before ++ f.params.flatMap Param.parts ++ f.rest
    ++ (match f.output with
      | some t => [.type t]
      | none => [])
    ++ (match f.body with
      | some body => [.expr (.block body)]
      | none => [])

/-- The parts of a field. -/
def FieldItem.parts (f : FieldItem) : List Part := f.before ++ [.type f.type]

/-- The parts of a member. -/
def Member.parts : Member → List Part
  | .function f => f.parts
  | .constant _ before type value =>
    before ++ .type type ::
      (match value with
      | some e => [.expr e]
      | none => [])
  | .other parts => parts

mutual

/-- The parts of an item. -/
def Item.parts : Item → List Part
  | .record _ before fields => before ++ fields.flatMap FieldItem.parts
  | .enumeration _ parts => parts
  | .traitItem _ before members => before ++ members.flatMap Member.parts
  | .implementation before type members => before ++ .type type :: members.flatMap Member.parts
  | .module before items => before ++ itemsParts items
  | .other parts => parts

/-- The parts of some items. -/
def itemsParts : List Item → List Part
  | [] => []
  | item :: items => item.parts ++ itemsParts items

end

/-! ## Attributes

The values of attributes are parts of what they are put on, in front of its other parts. A call comes
before the values of its attributes, so that these go in front of its receiver. -/

/-- Puts the values of attributes in front of the parts of a pattern. -/
def Pat.attach (values : List Part) : Pat → Pat
  | .ident name parts => .ident name (values ++ parts)
  | .typed p t => .typed (p.attach values) t
  | .reference p => .reference (p.attach values)
  | .paren p => .paren (p.attach values)
  | .other parts => .other (values ++ parts)

/-- Puts the values of attributes in front of the parts of an expression. Those of a loop are not
looked at. -/
def Expr.attach (values : List Part) : Expr → Expr
  | .path segments plain parts => .path segments plain (values ++ parts)
  | .methodCall receiver method generics args =>
    .methodCall (.group values receiver) method generics args
  | .call (.path segments plain parts) args => .call (.path segments plain (values ++ parts)) args
  | .call callee args => .call (.group values callee) args
  | .record name parts => .record name (values ++ parts)
  | .closure before params output body => .closure (values ++ before) params output body
  | .forLoop p e body => .forLoop p e body
  | .block body => .block (values ++ body)
  | .other parts => .other (values ++ parts)
  | e => .group values e

end ClassGraph.Rust
