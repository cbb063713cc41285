import ClassGraph.Rust.Grammar.Path

/-!
# Types and generics
-/

set_option autoImplicit false

namespace ClassGraph.Rust

open Parse

/-- A path as a type. -/
def Path.toType (self : List Part) (p : Path) : Ty :=
  match p.segments.getLast? with
  | some last => .path (self ++ p.segments.dropLast.flatMap Segment.parts) last.name (last.args.getD [])
  | none => .other self

namespace Grammar

/-! ## Sums of bounds -/

/-- The last names of the traits among some bounds. -/
def traitNames (bounds : List Bound) : List String := bounds.filterMap Bound.traitName

/-- Bounds as a type. -/
def traitType (bounds : List Bound) : Ty := .traits (traitNames bounds) (boundParts bounds)

/-- Bounds with at least one trait among them. -/
def objectBounds (g : Grammar) (plus captures constants : Bool) : Parse (List Bound) := do
  let bounds ← g.bounds plus captures constants
  if bounds.any Bound.isTrait then return bounds else failure

/-- Bounds that follow with a plus in front, each plus with a bound. -/
def strictBounds (g : Grammar) : Parse (List Bound) :=
  whileAt (Peek.punct "+") do
    punct "+"
    g.bound false false

/-! ## Types -/

/-- A name of an external interface, if it is there. -/
def interface : Parse Unit := do
  if ← tryWord "extern" then
    if ← sees Peek.text then lit

/-- A name or a blank for one. -/
def isNameOrBlank (ts : List Tree) : Bool := Peek.ident ts || Peek.word "_" ts

/-- A parameter of a function type. -/
def functionTypeParam (g : Grammar) (first : Bool) : Parse (List Part) := do
  let mutable ← sees fun ts => first && Peek.word "mut" ts && Peek.word "self" (ts.drop 1)
  if mutable then discard anyIdent
  let named ← sees fun ts =>
    (isNameOrBlank ts || (first && Peek.word "self" ts)) && Peek.colon (ts.drop 1)
  let onSelf ← sees fun ts => first && Peek.word "self" ts
  if named then
    discard anyIdent
    punct ":"
  if ← sees fun ts => first && !(named && onSelf) && Peek.word "mut" ts && Peek.word "self" (ts.drop 1) then
    word "mut"
    word "self"
    return []
  else if mutable && !named then
    word "self"
    return []
  else
    let t ← g.type true
    return if mutable then [] else [.type t.type]

/-- The end of the parameters of a function type that takes any number of arguments. -/
def variadicEnd : Parse Unit := do
  if ← sees isNameOrBlank then
    discard anyIdent
    punct ":"
  punct "..."
  discard <| tryPunct ","

/-- The parameters of a function type. -/
def functionTypeParams (g : Grammar) (first : Bool) : Nat → Parse (List Part)
  | 0 => failure
  | fuel + 1 => do
    if ← atEnd then return []
    let values ← g.attributes
    if ← sees fun ts => Peek.punct "..." ts
        || (isNameOrBlank ts && Peek.punct ":" (ts.drop 1) && Peek.punct "..." (ts.drop 2)) then
      variadicEnd
      return values
    let param ← g.functionTypeParam first
    if ← atEnd then return values ++ param
    punct ","
    let more ← g.functionTypeParams false fuel
    return values ++ param ++ more

/-- A function type. -/
def functionType (g : Grammar) (before : List Part) : Parse Ty := do
  discard <| tryWord "unsafe"
  interface
  word "fn"
  let params ← inside .paren fun ts => g.functionTypeParams true (ts.length + 2) ts
  let out ← g.output false
  return .other (before ++ params ++ optionalType out)

/-- What stands in parentheses as a type. -/
inductive Parenthesized where
  | done (t : Ty)
  /-- A relaxed bound, which other bounds may follow. -/
  | relaxed (b : Bound)
  /-- One type. -/
  | single (t : TypeOperand)

/-- The inside of parentheses. -/
def parenthesized (g : Grammar) : Parse Parenthesized := do
  if ← atEnd then return .done (.other [])
  else if ← sees Peek.lifetime then
    return .done (.paren (traitType (← g.objectBounds true false false)))
  else if ← sees (Peek.punct "?") then return .relaxed (← g.traitBound false)
  else
    let first ← g.type true
    if ← tryPunct "," then
      let more ← commas (g.type true)
      return .done (.other ((first :: more).map fun t => .type t.type))
    else return .single first

/-- A type in parentheses, or a tuple. -/
def parenthesizedType (g : Grammar) (plus : Bool) : Parse TypeOperand := do
  match ← inside .paren g.parenthesized with
  | .done t => return ⟨t, .other⟩
  | .relaxed b =>
    let more ← g.strictBounds
    return ⟨traitType (b :: more), if more.isEmpty then .bareTrait else .other⟩
  | .single t =>
    let continues := plus && (← sees (Peek.punct "+"))
    let bound : Option Bound :=
      match t.form, t.type with
      | .name, .path _ name _ => some (.ofTrait name [.type t.type])
      | .path, .path _ name _ => some (.ofTrait name [.type t.type])
      | .bareTrait, .traits [name] _ => some (.ofTrait name [.type t.type])
      | _, _ => none
    match continues, bound with
    | true, some b => return ⟨traitType (b :: (← g.strictBounds)), .other⟩
    | _, _ => return ⟨.paren t.type, .other⟩

/-- A path as a type, or a sum of bounds that starts with one. -/
def pathType (g : Grammar) (quantified : Option (List Part)) (plus : Bool) : Parse TypeOperand := do
  let (self, path) ← g.qualifiedPath false
  match self with
  | some parts => return ⟨path.toType parts, .other⟩
  | none =>
    if (← sees fun ts => Peek.punct "!" ts && !Peek.punct "!=" ts) && path.isBare then
      punct "!"
      let (args, _) ← g.macroBody
      return ⟨.other args, .other⟩
    else if quantified.isSome || (plus && (← sees (Peek.punct "+"))) then
      let first := Bound.ofTrait path.lastName (quantified.getD [] ++ path.parts)
      let (more, trailing) ← if plus then g.moreBounds false false else pure ([], false)
      return ⟨traitType (first :: more), if more.isEmpty && !trailing then .bareTrait else .other⟩
    else return ⟨path.toType [], if path.isSingle then .name else .path⟩

/-- Does a path start here? -/
def pathStarts (ts : List Tree) : Bool :=
  Peek.ident ts || Peek.wordOf pathWords ts || Peek.punct "::" ts || Peek.punct "<" ts

/-- A type. -/
def parseType (g : Grammar) (plus : Bool) : Parse TypeOperand := do
  let quantified ← do
    if ← sees (Peek.word "for") then
      let before ← g.boundLifetimes
      if ← sees fun ts => Peek.ident ts || Peek.wordOf ["fn", "unsafe", "extern"] ts
          || Peek.wordOf pathWords ts then pure (some before)
      else failure
    else pure none
  if ← sees (Peek.group .paren) then g.parenthesizedType plus
  else if ← sees (Peek.wordOf ["fn", "unsafe", "extern"]) then
    return ⟨← g.functionType (quantified.getD []), .other⟩
  else if ← sees pathStarts then g.pathType quantified plus
  else if ← tryWord "dyn" then
    let star ← tryPunct "*"
    let bounds ← g.objectBounds plus false true
    return ⟨if star then .other [] else traitType bounds, .other⟩
  else if ← sees (Peek.group .bracket) then
    inside .bracket do
      let element ← g.type true
      if ← tryPunct ";" then
        let length ← g.expr true
        return ⟨.array element.type length.expr, .other⟩
      else return ⟨.slice element.type, .other⟩
  else if ← tryPunct "*" then
    if ← sees (Peek.wordOf ["const", "mut"]) then discard anyIdent else failure
    let t ← g.type false
    return ⟨.other [.type t.type], .other⟩
  else if ← tryPunct "&" then
    discard tryLifetime
    discard <| tryWord "mut"
    let t ← g.type false
    return ⟨.reference t.type, .other⟩
  else if ← sees fun ts => Peek.punct "!" ts && !Peek.punct "!=" ts then
    punct "!"
    return ⟨.other [], .other⟩
  else if ← tryWord "impl" then
    return ⟨traitType (← g.objectBounds plus true true), .other⟩
  else if ← tryWord "_" then return ⟨.other [], .other⟩
  else if ← sees Peek.lifetime then
    return ⟨traitType (← g.objectBounds true false false), .other⟩
  else failure

/-! ## Generics -/

/-- Does a parameter list of an implementation start here, and not a type in angle brackets? -/
def genericsStart (ts : List Tree) : Bool :=
  Peek.punct "<" ts &&
    (Peek.punct ">" (ts.drop 1) || Peek.punct "#" (ts.drop 1)
      || ((Peek.lifetime (ts.drop 1) || Peek.ident (ts.drop 1))
        && Peek.punctOf [">", ",", ":", "="] (ts.drop 2)
        && !Peek.punct "::" (ts.drop 2))
      || Peek.word "const" (ts.drop 1))

/-- A generic parameter. -/
def genericParam (g : Grammar) : Parse (List Part) := do
  let values ← g.attributes
  if ← tryLifetime then
    if ← tryPunct ":" then
      discard <| separatedWhile (fun ts => Peek.punct "," ts || Peek.punct ">" ts) "+" lifetime
    return values
  else if ← tryWord "const" then
    discard ident
    punct ":"
    let t ← g.type true
    let value ← if ← tryPunct "=" then g.constantArgument else pure []
    return values ++ .type t.type :: value
  else
    if !(← tryWord "_") then discard ident
    let bounds ← do
      if ← tryPunct ":" then
        g.boundsUntil fun ts => Peek.punctOf [",", ">", "="] ts
      else pure []
    let value ← do
      if ← tryPunct "=" then pure [Part.type (← g.type true).type] else pure []
    return values ++ boundParts bounds ++ value

/-- The generic parameters, if there are any. -/
def generics (g : Grammar) : Parse (List Part) := do
  if ← tryPunct "<" then
    let params ← separatedUntil (Peek.punct ">") "," g.genericParam
    punct ">"
    return params.flatten
  else return []

/-- A requirement of a `where` clause. -/
def requirement (g : Grammar) : Parse (List Part) := do
  let stop := fun ts =>
    ts.isEmpty || Peek.group .brace ts || Peek.punct "," ts || Peek.punct ";" ts
      || Peek.colon ts || Peek.punct "=" ts
  if (← sees Peek.lifetime) && (← sees2 (Peek.punct ":")) then
    lifetime
    punct ":"
    discard <| separatedWhile stop "+" lifetime
    return []
  else
    let before ← g.maybeBoundLifetimes
    let t ← g.type true
    punct ":"
    let bounds ← g.boundsUntil stop
    return before ++ .type t.type :: boundParts bounds

/-- A `where` clause, if there is one. -/
def whereClause (g : Grammar) : Parse (List Part) := do
  if ← tryWord "where" then
    if ← sees genericsStart then failure
    let requirements ← separatedWhile
      (fun ts => ts.isEmpty || Peek.group .brace ts || Peek.punct "," ts || Peek.punct ";" ts
        || Peek.colon ts || Peek.punct "=" ts)
      "," g.requirement
    return requirements.flatten
  else return []

end Grammar

end ClassGraph.Rust
