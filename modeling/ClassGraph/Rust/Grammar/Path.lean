import ClassGraph.Rust.Grammar.Basic

/-!
# Attributes, bounds and paths

Of an attribute only the value in `#[name = value]` matters, and only if it is not a literal. A bound
matters by the last name of its trait.
-/

set_option autoImplicit false

namespace ClassGraph.Rust

open Parse

/-! ## Parts -/

/-- The parts of an argument. -/
def Arg.parts : Arg → List Part
  | .type t => [.type t]
  | .other parts => parts

/-- The parts of a segment. -/
def Segment.parts (s : Segment) : List Part := (s.args.getD []).flatMap Arg.parts

/-- The parts of a path. -/
def Path.parts (p : Path) : List Part := p.segments.flatMap Segment.parts

/-- Names between separators, without arguments. -/
def Path.isBare (p : Path) : Bool := p.segments.all fun s => s.args.isNone

/-- The name of the last segment. -/
def Path.lastName (p : Path) : String := (p.segments.getLast?.map (·.name)).getD ""

/-- Is the path a single segment? -/
def Path.isSingle (p : Path) : Bool := !p.rooted && p.segments.length == 1

namespace Grammar

/-! ## Attributes -/

/-- The words that may stand in a path without being names. -/
def pathWords : List String := ["super", "self", "Self", "crate"]

/-- A name, or a word that stands for one in a path. -/
def bareSegment : Parse Unit := do
  if ← sees (Peek.wordOf pathWords) then discard anyIdent else discard ident

/-- Names between separators. -/
def barePath : Parse Unit := do
  discard <| tryPunct "::"
  bareSegment
  discard <| whileAt (Peek.punct "::") do
    punct "::"
    bareSegment

/-- What stands between the brackets of an attribute. -/
def attributeBody (g : Grammar) : Parse (List Part) := do
  if ← sees (Peek.word "unsafe") then discard anyIdent else barePath
  if (← sees (Peek.group .paren)) || (← sees (Peek.group .bracket)) || (← sees (Peek.group .brace)) then
    discard anyGroup
    return []
  else if ← tryPunct "=" then
    match ← optionally (do lit; if !(← atEnd) then failure) with
    | some () => return []
    | none =>
      if (← sees (Peek.punct "#")) && (← sees2 (Peek.group .bracket)) then failure
      else return [.expr (← g.expr true).expr]
  else return []

/-- Attributes in front of something: the values in them. -/
def attributes (g : Grammar) : Parse (List Part) := do
  let values ← whileAt (Peek.punct "#") do
    punct "#"
    inside .bracket g.attributeBody
  return values.flatten

/-- Attributes at the start of a body, for what holds it. -/
def innerAttributes (g : Grammar) : Parse (List Part) := do
  let values ← whileAt (fun ts => Peek.punct "#" ts && Peek.punct "!" (ts.drop 1)) do
    punct "#"
    punct "!"
    inside .bracket g.attributeBody
  return values.flatten

/-! ## Blocks -/

/-- A block in braces. -/
def braces (g : Grammar) : Parse (List Part) := inside .brace g.statements

/-- A block in braces that may start with attributes. -/
def attributedBraces (g : Grammar) : Parse (List Part) :=
  inside .brace do
    let values ← g.innerAttributes
    let body ← g.statements
    return values ++ body

/-! ## Bounds -/

/-- A bound. -/
inductive Bound where
  /-- A trait, by the last name of its path. -/
  | ofTrait (name : String) (parts : List Part)
  /-- A trait that holds at compile time, of which nothing matters. -/
  | constant
  /-- A lifetime, or the captured parameters of an `impl` type. -/
  | outlives

/-- The last name of the trait of a bound. -/
def Bound.traitName : Bound → Option String
  | .ofTrait name _ => some name
  | _ => none

/-- The parts of a bound. -/
def Bound.parts : Bound → List Part
  | .ofTrait _ parts => parts
  | _ => []

/-- Is the bound about a type, and not only about lifetimes? -/
def Bound.isTrait : Bound → Bool
  | .outlives => false
  | _ => true

/-- `for<'a, 'b>` -/
def boundLifetimes (g : Grammar) : Parse (List Part) := do
  word "for"
  punct "<"
  let values ← separatedUntil (Peek.punct ">") "," do
    let values ← g.attributes
    lifetime
    return values
  punct ">"
  return values.flatten

/-- `for<'a, 'b>`, if it is there. -/
def maybeBoundLifetimes (g : Grammar) : Parse (List Part) := do
  if ← sees (Peek.word "for") then g.boundLifetimes else return []

/-- `-> T`, if it is there. -/
def output (g : Grammar) (plus : Bool) : Parse (Option Ty) := do
  if ← tryPunct "->" then return some (← g.type plus).type else return none

/-- A type that may be there, as a part. -/
def optionalType : Option Ty → List Part
  | some t => [.type t]
  | none => []

/-- `(A, B) -> C` -/
def parenthesizedArgs (g : Grammar) : Parse (List Part) := do
  let types ← inside .paren (commas (g.type true))
  let out ← g.output false
  return types.map (fun t => .type t.type) ++ optionalType out

/-- A trait with its modifiers; a constant one does not count as a trait. -/
def traitBound (g : Grammar) (constants : Bool) : Parse Bound := do
  let before ← g.maybeBoundLifetimes
  let constant ← do
    if ← sees (Peek.group .bracket) then
      inside .bracket (word "const")
      if constants then pure true else failure
    else if ← tryWord "const" then
      if constants then pure true else failure
    else pure false
  let before ← do
    if ← tryPunct "?" then
      if before.isEmpty then g.maybeBoundLifetimes else pure before
    else pure before
  let path ← g.path false
  let bare := (path.segments.getLast?.map fun s => s.args.isNone).getD false
  let args ← do
    if bare then
      if ← sees (Peek.group .paren) then g.parenthesizedArgs
      else if (← sees (Peek.punct "::")) && (← sees3 (Peek.group .paren)) then
        punct "::"
        g.parenthesizedArgs
      else pure []
    else pure []
  return if constant then .constant else .ofTrait path.lastName (before ++ path.parts ++ args)

/-- `use<'a, T>` -/
def capture : Parse Unit := do
  word "use"
  punct "<"
  discard <| separatedUntil (Peek.punct ">") "," do
    if ← tryLifetime then pure ()
    else if ← tryWord "Self" then pure ()
    else discard ident
  punct ">"

/-- A single bound. -/
def bound (g : Grammar) (captures constants : Bool) : Parse Bound := do
  if ← tryLifetime then return .outlives
  else if ← sees (Peek.word "use") then
    capture
    if captures then return .outlives else failure
  else if ← sees (Peek.group .paren) then inside .paren (g.traitBound constants)
  else g.traitBound constants

/-- May a bound start here, after a plus? -/
def boundStarts (constants : Bool) (ts : List Tree) : Bool :=
  Peek.anyIdent ts || Peek.punct "::" ts || Peek.punct "?" ts || Peek.lifetime ts
    || Peek.group .paren ts || (constants && Peek.group .bracket ts)

/-- The bounds that follow with a plus in front, and whether a plus ends them. -/
def moreBounds (g : Grammar) (captures constants : Bool) : Parse (List Bound × Bool) := do
  let found ← whileAt (Peek.punct "+") do
    punct "+"
    if ← sees (boundStarts constants) then return some (← g.bound captures constants)
    else return none
  -- A plus without a bound ends the list.
  if found.dropLast.any Option.isNone then failure
  return (found.filterMap id, (found.getLast?.map Option.isNone).getD false)

/-- One bound or more; a sum only where that is allowed. -/
def bounds (g : Grammar) (plus captures constants : Bool) : Parse (List Bound) := do
  let first ← g.bound captures constants
  if plus then
    let (more, _) ← g.moreBounds captures constants
    return first :: more
  else return [first]

/-- Bounds until a test holds of the front; a plus may end them. -/
def boundsUntil (g : Grammar) (stop : List Tree → Bool) : Parse (List Bound) :=
  separatedWhile stop "+" (g.bound false true)

/-- The parts of some bounds. -/
def boundParts (bounds : List Bound) : List Part := bounds.flatMap Bound.parts

/-! ## Paths -/

/-- A constant as an argument. -/
def constantArgument (g : Grammar) : Parse (List Part) := do
  if ← sees Peek.lit then
    lit
    return []
  else if ← sees Peek.ident then
    let name ← ident
    return [.expr (.path [name] true [])]
  else return [.expr (.block (← g.attributedBraces))]

/-- An argument in angle brackets. -/
def argument (g : Grammar) : Parse Arg := do
  if (← sees Peek.lifetime) && !(← sees2 (Peek.punct "+")) then
    lifetime
    return .other []
  else if (← sees Peek.lit) || (← sees (Peek.group .brace)) then
    return .other (← g.constantArgument)
  else
    let t ← g.type true
    match t.form, t.type with
    | .name, .path _ _ args =>
      let generics := args.flatMap Arg.parts
      if ← tryPunct "=" then
        if (← sees Peek.lit) || (← sees (Peek.group .brace)) then
          return .other (generics ++ (← g.constantArgument))
        else
          return .other (generics ++ [.type (← g.type true).type])
      else if ← tryPunct ":" then
        let bounds ← g.boundsUntil fun ts => Peek.punct "," ts || Peek.punct ">" ts
        return .other (generics ++ boundParts bounds)
      else return .type t.type
    | _, _ => return .type t.type

/-- Arguments in angle brackets. -/
def angled (g : Grammar) : Parse (List Arg) := do
  discard <| tryPunct "::"
  punct "<"
  let args ← separatedUntil (Peek.punct ">") "," g.argument
  punct ">"
  return args

/-- A segment of a path. In the style of expressions, arguments need a separator in front. -/
def segment (g : Grammar) (exprStyle : Bool) : Parse Segment := do
  if ← sees (Peek.wordOf ["super", "self", "crate", "try"]) then
    return ⟨← anyIdent, none⟩
  else
    let name ← if ← sees (Peek.word "Self") then anyIdent else ident
    let opens := (!exprStyle) && (← sees fun ts =>
      Peek.punct "<" ts && !Peek.punct "<=" ts && !Peek.punct "<<=" ts)
    if opens || ((← sees (Peek.punct "::")) && (← sees3 (Peek.punct "<"))) then
      return ⟨name, some (← g.angled)⟩
    else return ⟨name, none⟩

/-- A path. -/
def parsePath (g : Grammar) (exprStyle : Bool) : Parse Path := do
  let rooted ← tryPunct "::"
  let first ← g.segment exprStyle
  let more ← whileAt (fun ts => Peek.punct "::" ts && !Peek.group .paren (ts.drop 2)) do
    punct "::"
    g.segment exprStyle
  return ⟨rooted, first :: more⟩

/-- A path that may start with a type in angle brackets, which is given as its parts. -/
def qualifiedPath (g : Grammar) (exprStyle : Bool) : Parse (Option (List Part) × Path) := do
  if ← tryPunct "<" then
    let self ← g.type true
    let traitPath ← if ← tryWord "as" then pure (some (← g.path false)) else pure none
    punct ">"
    punct "::"
    let first ← g.segment exprStyle
    let more ← whileAt (Peek.punct "::") do
      punct "::"
      g.segment exprStyle
    match traitPath with
    | some p => return (some [.type self.type], ⟨p.rooted, p.segments ++ first :: more⟩)
    | none => return (some [.type self.type], ⟨true, first :: more⟩)
  else return (none, ← g.parsePath exprStyle)

/-- The body of a macro call, as the expressions between commas in it, if it can be read so. -/
def macroArgs (g : Grammar) (body : List Tree) : List Part :=
  match (commas (g.expr true)) body with
  | some (args, []) => args.map fun a => .expr a.expr
  | _ => []

/-- The brackets of a macro call: its arguments, and whether they are braces. -/
def macroBody (g : Grammar) : Parse (List Part × Bool) := do
  let (body, braced) ← anyGroup
  return (g.macroArgs body, braced)

end Grammar

end ClassGraph.Rust
