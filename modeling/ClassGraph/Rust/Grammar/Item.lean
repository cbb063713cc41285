import ClassGraph.Rust.Grammar.Expr

/-!
# Statements and items

An item whose form has no meaning in the language, but that can be read, has no parts.
-/

set_option autoImplicit false

namespace ClassGraph.Rust

open Parse

namespace Parse

/-- Reads something, and gives the number of line ends between its first and its last tree. -/
def spanned {α : Type} (p : Parse α) : Parse (α × Nat) := fun ts =>
  match p ts with
  | none => none
  | some (a, rest) =>
    let taken := ts.take (ts.length - rest.length)
    let start := (taken.head?.map Tree.line).getD 0
    let stop := (taken.getLast?.map Tree.endLine).getD 0
    some ((a, stop - start), rest)

/-- Reads something, and tells whether it ends with braces. -/
def endsInBraces {α : Type} (p : Parse α) : Parse (α × Bool) := fun ts =>
  match p ts with
  | none => none
  | some (a, rest) =>
    some ((a, Peek.group .brace (ts.drop (ts.length - rest.length - 1))), rest)

end Parse

namespace Grammar

/-! ## Functions -/

/-- `pub` and where it holds, if it is there. -/
def visibility : Parse Bool := do
  if ← tryWord "pub" then
    if ← sees (Peek.group .paren) then
      let opens ← lookingAhead (do
        let (body, _) ← anyGroup
        return Peek.word "in" body
          || (Peek.wordOf ["crate", "self", "super"] body && body.length == 1))
      if opens then
        inside .paren do
          if ← tryWord "in" then barePath else discard anyIdent
    return true
  else return false

/-- Does a function start here, after the words that may stand in front of it? The word `safe` may
stand there only in a foreign module. -/
def functionStarts (safe : Bool) (ts : List Tree) : Bool :=
  let drop (w : String) (ts : List Tree) := if Peek.word w ts then ts.drop 1 else ts
  let ts := drop "async" (drop "const" ts)
  let ts := if safe && Peek.word "safe" ts then ts.drop 1 else drop "unsafe" ts
  let ts :=
    if Peek.word "extern" ts then
      if Peek.text (ts.drop 1) then ts.drop 2 else ts.drop 1
    else ts
  Peek.word "fn" ts

/-- The receiver of a method. -/
def receiver (g : Grammar) : Parse (List Part) := do
  let borrowed ← tryPunct "&"
  if borrowed then discard tryLifetime
  discard <| tryWord "mut"
  word "self"
  if !borrowed && (← tryPunct ":") then return [.type (← g.type true).type] else return []

/-- The parameters of a function, and the parts of the dots that may end them. -/
def params (g : Grammar) (first : Bool) : Nat → Parse (List Param × List Part)
  | 0 => failure
  | fuel + 1 => do
    if ← atEnd then return ([], [])
    let values ← g.attributes
    if ← tryPunct "..." then
      if !(← atEnd) then punct ","
      return ([], values)
    let next (p : Param) : Parse (List Param × List Part) := do
      if ← atEnd then return ([p], [])
      punct ","
      let (ps, rest) ← g.params false fuel
      return (p :: ps, rest)
    match ← optionally g.receiver with
    | some parts => if first then next (.receiver (values ++ parts)) else failure
    | none =>
      if (← sees Peek.ident) && (← sees2 (Peek.punct "<")) then
        let t ← g.type true
        next (.typed values (.other []) t.type)
      else
        let p ← g.pattern
        punct ":"
        if ← tryPunct "..." then
          if !(← atEnd) then punct ","
          return ([], values ++ [.pattern p.pattern])
        let t ← g.type true
        next (.typed values p.pattern t.type)

/-- The head of a function; its body is left open. -/
def signature (g : Grammar) (values : List Part) (safe : Bool) : Parse Function := do
  discard <| tryWord "const"
  discard <| tryWord "async"
  if safe && (← sees (Peek.word "safe")) then discard anyIdent else discard <| tryWord "unsafe"
  interface
  word "fn"
  let name ← ident
  let generics ← g.generics
  let (params, rest) ← inside .paren fun ts => g.params true (ts.length + 2) ts
  let out ← g.output true
  let requirements ← g.whereClause
  return { name, before := values ++ generics ++ requirements, params, rest, output := out, body := none,
           lines := 0 }

/-- The body of a function in braces. -/
def withBody (g : Grammar) (f : Function) : Parse Function :=
  inside .brace do
    let values ← g.innerAttributes
    let body ← g.statements
    return { f with before := values ++ f.before, body := some body }

/-! ## Parts of items -/

/-- A field with a name. -/
def namedField (g : Grammar) : Parse FieldItem := do
  let values ← g.attributes
  discard visibility
  let blank ← sees (Peek.word "_")
  let name ← if blank then anyIdent else ident
  punct ":"
  if blank && (← sees fun ts => Peek.word "struct" ts
      || (Peek.word "union" ts && Peek.group .brace (ts.drop 1))) then
    discard anyIdent
    discard anyGroup
    return ⟨some name, values, .other []⟩
  else return ⟨some name, values, (← g.type true).type⟩

/-- Fields in braces. -/
def namedFields (g : Grammar) : Parse (List FieldItem) := inside .brace (commas g.namedField)

/-- Fields in parentheses. -/
def unnamedFields (g : Grammar) : Parse (List FieldItem) :=
  inside .paren <| commas do
    let values ← g.attributes
    discard visibility
    return ⟨none, values, (← g.type true).type⟩

/-- A variant of an enumeration. -/
def variant (g : Grammar) : Parse (List Part) := do
  let values ← g.attributes
  discard visibility
  discard ident
  let fields ← do
    if ← sees (Peek.group .brace) then g.namedFields
    else if ← sees (Peek.group .paren) then g.unnamedFields
    else pure []
  let value ← do
    if ← tryPunct "=" then pure [Part.expr (← g.expr true).expr] else pure []
  return values ++ fields.flatMap FieldItem.parts ++ value

/-- Bounds until one of the stops; they are separated by plus signs. -/
def superBounds (g : Grammar) (stop : List Tree → Bool) : Parse (List Part) := do
  let bounds ← separatedUntil stop "+" (g.bound false true)
  return boundParts bounds

/-- The declaration of a constant after its keyword. -/
structure ConstantItem where
  name : String
  type : Ty
  value : Option Expr
  /-- It has no parameters and no requirements. -/
  simple : Bool

/-- A constant after its keyword. -/
def constant (g : Grammar) : Parse ConstantItem := do
  let name ← if ← sees (Peek.word "_") then anyIdent else ident
  let generic ← sees (Peek.punct "<")
  discard g.generics
  punct ":"
  let t ← g.type true
  let value ← if ← tryPunct "=" then pure (some (← g.expr true).expr) else pure none
  let required ← sees (Peek.word "where")
  discard g.whereClause
  punct ";"
  return ⟨name, t.type, value, !generic && !required⟩

/-- The declaration of a type name. -/
structure TypeItem where
  generics : List Part
  /-- Is there a colon for bounds? -/
  bounded : Bool
  bounds : List Part
  definition : Option Ty

/-- A type name, from its keyword; requirements may stand in front of its definition, behind it, or
in both places. -/
def typeItem (g : Grammar) (whereBefore whereAfter : Bool) : Parse TypeItem := do
  word "type"
  discard ident
  let generics ← g.generics
  let bounded ← tryPunct ":"
  let bounds ← do
    if bounded then
      g.superBounds fun ts => Peek.word "where" ts || Peek.punct "=" ts || Peek.punct ";" ts
    else pure []
  let required ← if whereBefore then sees (Peek.word "where") else pure false
  let before ← if whereBefore then g.whereClause else pure []
  let definition ← if ← tryPunct "=" then pure (some (← g.type true).type) else pure none
  let after ← if whereAfter && !required then g.whereClause else pure []
  punct ";"
  return ⟨generics ++ before ++ after, bounded, bounds, definition⟩

/-- A macro call that stands as an item; without braces a semicolon ends it. -/
def macroItem (g : Grammar) (named : Bool) : Parse (List Part) := do
  barePath
  punct "!"
  if named then
    if (← sees (Peek.word "try")) || (← sees Peek.ident) then discard anyIdent
  let (args, braced) ← g.macroBody
  if !braced then punct ";"
  return args

/-- Does a macro call that stands as an item start here? -/
def macroStarts (ts : List Tree) : Bool :=
  Peek.ident ts || Peek.wordOf ["self", "super", "crate"] ts || Peek.punct "::" ts

/-! ## Members of traits and implementations -/

/-- A member of a trait. One with a visibility or a default mark has no meaning. -/
def traitMember (g : Grammar) : Parse Member := do
  let values ← g.attributes
  let visible ← visibility
  let marked ← tryWord "default"
  let m : Member ← do
    if ← sees (functionStarts false) then
      let values := values ++ (← g.attributes)
      let f ← g.signature values false
      if ← tryPunct ";" then pure (.function f) else pure (.function (← g.withBody f))
    else if ← tryWord "const" then
      let c ← g.constant
      pure (if c.simple then .constant c.name values c.type c.value else .other [])
    else if ← sees (Peek.word "type") then
      let t ← g.typeItem false true
      pure (.other (values ++ t.generics ++ t.bounds ++ optionalType t.definition))
    else if !visible && !marked && (← sees macroStarts) then
      pure (.other (values ++ (← g.macroItem false)))
    else failure
  return if visible || marked then .other [] else m

/-- A member of an implementation. -/
def implementationMember (g : Grammar) : Parse Member := do
  let values ← g.attributes
  let visible ← visibility
  let marked ← sees fun ts => Peek.word "default" ts && !Peek.punct "!" (ts.drop 1)
  if marked then discard anyIdent
  if ← sees (functionStarts false) then
    let f ← g.signature values false
    if ← tryPunct ";" then return .other [] else return .function (← g.withBody f)
  else if ← tryWord "const" then
    let c ← g.constant
    match c.simple, c.value with
    | true, some e => return .constant c.name values c.type (some e)
    | _, _ => return .other []
  else if ← sees (Peek.word "type") then
    let t ← g.typeItem false true
    match t.bounded, t.definition with
    | false, some d => return .other (values ++ t.generics ++ [.type d])
    | _, _ => return .other []
  else if !visible && !marked && (← sees macroStarts) then
    return .other (values ++ (← g.macroItem false))
  else failure

/-- A member with the number of lines it takes. -/
def withLines (p : Parse Member) : Parse Member := do
  let (m, lines) ← spanned p
  match m with
  | .function f => return .function { f with lines }
  | m => return m

/-- Members in braces, and the values of the attributes at their start. -/
def members (g : Grammar) (p : Parse Member) : Parse (List Part × List Member) :=
  inside .brace do
    let values ← g.innerAttributes
    let ms ← untilEnd (withLines p)
    return (values, ms)

/-! ## Items -/

/-- The rest of an import. -/
def parseUseTree (g : Grammar) (root : Bool) : Parse Unit := do
  if (← sees Peek.ident) || (← sees (Peek.wordOf ["self", "super", "crate", "try"])) then
    discard anyIdent
    if ← tryPunct "::" then g.useTree false
    else if ← tryWord "as" then
      if !(← tryWord "_") then discard ident
  else if ← tryPunct "*" then pure ()
  else
    discard <| inside .brace <| commas do
      let rooted ← if root then tryPunct "::" else pure false
      g.useTree (root && !rooted)

/-- A record type. -/
def structItem (g : Grammar) (values : List Part) : Parse Item := do
  word "struct"
  let name ← ident
  let generics ← g.generics
  let early ← sees (Peek.word "where")
  let required ← g.whereClause
  let before := values ++ generics ++ required
  if !early && (← sees (Peek.group .paren)) then
    let fields ← g.unnamedFields
    let required ← g.whereClause
    punct ";"
    return .record name (before ++ required) fields
  else if ← sees (Peek.group .brace) then return .record name before (← g.namedFields)
  else
    punct ";"
    return .record name before []

/-- An enumeration. -/
def enumItem (g : Grammar) (values : List Part) : Parse Item := do
  word "enum"
  let name ← ident
  let generics ← g.generics
  let required ← g.whereClause
  let variants ← inside .brace (commas g.variant)
  return .enumeration name (values ++ generics ++ required ++ variants.flatten)

/-- A union. -/
def unionItem (g : Grammar) (values : List Part) : Parse Item := do
  word "union"
  let name ← ident
  let generics ← g.generics
  let required ← g.whereClause
  let fields ← g.namedFields
  return .record name (values ++ generics ++ required) fields

/-- A trait, or another name for bounds. -/
def traitItem (g : Grammar) (values : List Part) (mayAlias : Bool) : Parse Item := do
  word "trait"
  let name ← ident
  let generics ← g.generics
  if mayAlias && (← sees (Peek.punct "=")) then
    punct "="
    let bounds ← g.superBounds fun ts => Peek.word "where" ts || Peek.punct ";" ts
    let required ← g.whereClause
    punct ";"
    return .other (values ++ generics ++ required ++ bounds)
  else
    let supers ← do
      if ← tryPunct ":" then
        g.superBounds fun ts => Peek.word "where" ts || Peek.group .brace ts
      else pure []
    let required ← g.whereClause
    let (inner, ms) ← g.members g.traitMember
    return .traitItem name (values ++ inner ++ generics ++ required ++ supers) ms

/-- An implementation. -/
def implementation (g : Grammar) (values : List Part) : Parse Item := do
  let visible ← visibility
  discard <| tryWord "default"
  discard <| tryWord "unsafe"
  word "impl"
  let generics ← if ← sees genericsStart then g.generics else pure []
  let constant ← sees fun ts =>
    Peek.word "const" ts || (Peek.punct "?" ts && Peek.word "const" (ts.drop 1))
  if constant then
    discard <| tryPunct "?"
    word "const"
  let negative ← sees fun ts => Peek.punct "!" ts && !Peek.group .brace (ts.drop 1)
  if negative then punct "!"
  let first ← g.type true
  let forTrait ← tryWord "for"
  if negative && !forTrait then failure
  let self ← if forTrait then g.type true else pure first
  let required ← g.whereClause
  let (inner, ms) ← g.members g.implementationMember
  let isPath := first.form = .name || first.form = .path
  if visible || constant || (forTrait && !isPath) then return .other []
  let traitParts := if forTrait then [Part.type first.type] else []
  return .implementation (values ++ inner ++ generics ++ required ++ traitParts) self.type ms

/-- A member of a foreign module. -/
def foreignItem (g : Grammar) : Parse (List Part) := do
  let values ← g.attributes
  let visible ← visibility
  if ← sees (functionStarts true) then
    let safe ← sees fun ts => !Peek.word "fn" ts && !functionStarts false ts
    let f ← g.signature values true
    if ← tryPunct ";" then return if safe then [] else f.parts
    else
      discard <| g.withBody f
      return []
  else if ← sees fun ts => Peek.word "static" ts
      || (Peek.wordOf ["unsafe", "safe"] ts && Peek.word "static" (ts.drop 1)) then
    let marked ← sees (Peek.wordOf ["unsafe", "safe"])
    if marked then discard anyIdent
    word "static"
    discard <| tryWord "mut"
    discard ident
    punct ":"
    let t ← g.type true
    let valued ← tryPunct "="
    if valued then discard <| g.expr true
    punct ";"
    return if marked || valued then [] else values ++ [.type t.type]
  else if ← sees (Peek.word "type") then
    let t ← g.typeItem true true
    return if t.bounded || t.definition.isSome then [] else values ++ t.generics
  else if !visible && (← sees macroStarts) then return values ++ (← g.macroItem false)
  else failure

/-- A foreign module. -/
def foreignModule (g : Grammar) (values : List Part) : Parse Item := do
  discard <| tryWord "unsafe"
  word "extern"
  if ← sees Peek.text then lit
  let (inner, items) ← inside .brace do return (← g.innerAttributes, ← untilEnd g.foreignItem)
  return .other (values ++ inner ++ items.flatten)

/-- A module. -/
def moduleItem (g : Grammar) (values : List Part) : Parse Item := do
  discard <| tryWord "unsafe"
  word "mod"
  if !(← tryWord "try") then discard ident
  if ← tryPunct ";" then return .module values []
  else
    let (inner, items) ← inside .brace do return (← g.innerAttributes, ← untilEnd g.item)
    return .module (values ++ inner) items

/-- A variable that lives as long as the program. -/
def staticItem (g : Grammar) (values : List Part) : Parse Item := do
  word "static"
  discard <| tryWord "mut"
  discard ident
  if ← tryPunct "=" then
    discard <| g.expr true
    punct ";"
    return .other []
  else
    punct ":"
    let t ← g.type true
    if ← tryPunct ";" then return .other []
    else
      punct "="
      let e ← g.expr true
      punct ";"
      return .other (values ++ [.type t.type, .expr e.expr])

/-- A crate that is linked. -/
def externCrate (values : List Part) : Parse Item := do
  word "extern"
  word "crate"
  if !(← tryWord "self") then discard ident
  if ← tryWord "as" then
    if !(← tryWord "_") then discard ident
  punct ";"
  return .other values

/-- An item after attributes with the given values. -/
def itemAfter (g : Grammar) (values : List Part) : Parse Item := do
  -- What kind of item it is shows behind its visibility.
  let (visible, ahead) ← lookingAhead (do return (← visibility, ← get))
  let next := ahead.drop 1
  if functionStarts false ahead then
    discard visibility
    let f ← g.signature values false
    if ← tryPunct ";" then return .other [] else return .other (← g.withBody f).parts
  else if Peek.word "extern" ahead then
    if Peek.word "crate" next then
      discard visibility
      externCrate values
    else g.foreignModule values
  else if Peek.word "use" ahead then
    discard visibility
    word "use"
    let rooted ← tryPunct "::"
    g.useTree (!rooted)
    punct ";"
    return .other values
  else if Peek.word "static" ahead then
    discard visibility
    g.staticItem values
  else if Peek.word "const" ahead then
    discard visibility
    word "const"
    let c ← g.constant
    match c.simple, c.value with
    | true, some e => return .other (values ++ [.type c.type, .expr e])
    | _, _ => return .other []
  else if Peek.word "unsafe" ahead then
    if Peek.word "trait" next || (Peek.word "auto" next && Peek.word "trait" (next.drop 1)) then
      discard visibility
      word "unsafe"
      discard <| tryWord "auto"
      g.traitItem values false
    else if Peek.word "impl" next then g.implementation values
    else if Peek.word "extern" next then g.foreignModule values
    else if Peek.word "mod" next then
      discard visibility
      g.moduleItem values
    else failure
  else if Peek.word "mod" ahead then
    discard visibility
    g.moduleItem values
  else if Peek.word "type" ahead then
    discard visibility
    let t ← g.typeItem true false
    match t.bounded, t.definition with
    | false, some d => return .other (values ++ t.generics ++ [.type d])
    | _, _ => return .other []
  else if Peek.word "struct" ahead then
    discard visibility
    g.structItem values
  else if Peek.word "enum" ahead then
    discard visibility
    g.enumItem values
  else if Peek.word "union" ahead && Peek.ident next then
    discard visibility
    g.unionItem values
  else if Peek.word "trait" ahead then
    discard visibility
    g.traitItem values true
  else if Peek.word "auto" ahead && Peek.word "trait" next then
    discard visibility
    word "auto"
    g.traitItem values false
  else if Peek.word "impl" ahead || (Peek.word "default" ahead && !Peek.punct "!" next) then
    g.implementation values
  else if Peek.word "macro" ahead then
    discard visibility
    word "macro"
    discard ident
    if ← sees (Peek.group .paren) then discard anyGroup
    inside .brace everything
    return .other []
  else if !visible && macroStarts ahead then return .other (values ++ (← g.macroItem true))
  else failure

/-- An item. -/
def parseItem (g : Grammar) : Parse Item := do
  let values ← g.attributes
  g.itemAfter values

/-! ## Statements -/

/-- A `let`. -/
def letStatement (g : Grammar) : Parse Part := do
  word "let"
  let p ← g.pattern
  let p ← if ← tryPunct ":" then pure (Pat.typed p.pattern (← g.type true).type) else pure p.pattern
  if ← tryPunct "=" then
    let (e, closed) ← endsInBraces (g.expr true)
    let diverge ← do
      if !closed && (← tryWord "else") then pure (some (Expr.block (← g.braces))) else pure none
    punct ";"
    return .bind p (some e.expr) diverge
  else
    punct ";"
    return .bind p none none

/-- Does an item start here, and not an expression? -/
def itemStarts (ts : List Tree) : Bool :=
  let next := ts.drop 1
  let third := ts.drop 2
  Peek.wordOf ["pub", "extern", "use", "fn", "mod", "type", "struct", "enum", "trait", "impl", "macro"] ts
    || (Peek.word "crate" ts && !Peek.punct "::" next)
    || (Peek.word "static" ts && (Peek.word "mut" next || Peek.ident next))
    || (Peek.word "const" ts
      && !(Peek.group .brace next || Peek.word "static" next
        || (Peek.word "async" next && !Peek.wordOf ["unsafe", "extern", "fn"] third)
        || Peek.word "move" next || Peek.punct "|" next))
    || (Peek.word "unsafe" ts && !Peek.group .brace next)
    || (Peek.word "async" ts && Peek.wordOf ["unsafe", "extern", "fn"] next)
    || (Peek.word "union" ts && Peek.ident next)
    || (Peek.word "auto" ts && Peek.word "trait" next)
    || (Peek.word "default" ts && Peek.wordOf ["unsafe", "impl"] next)

/-- What follows the path of a macro call at the start of a statement. -/
inductive MacroStart where
  | none
  /-- A name: the call is an item. -/
  | item
  /-- Braces that end the statement. -/
  | braces

/-- The kind of macro call that starts a statement. -/
def macroStart (ts : List Tree) : MacroStart :=
  match barePath ts with
  | some ((), rest) =>
    let next := rest.drop 1
    let third := rest.drop 2
    if !Peek.punct "!" rest then .none
    else if Peek.ident next || Peek.word "try" next then .item
    else if Peek.group .brace next && !(Peek.dot third || Peek.punct "?" third) then .braces
    else .none
  | none => .none

/-- A statement, and whether something may follow it. -/
def statement (g : Grammar) : Parse (List Part × Bool) := do
  let values ← g.attributes
  match macroStart (← get) with
  | .braces =>
    barePath
    punct "!"
    let (args, _) ← g.macroBody
    discard <| tryPunct ";"
    return (values ++ args, true)
  | .item => return ((← g.itemAfter values).parts, true)
  | .none =>
    if ← sees (Peek.word "let") then return ([← g.letStatement], true)
    else if ← sees itemStarts then return ((← g.itemAfter values).parts, true)
    else
      let e ← g.parseEarly values
      let closed ← tryPunct ";"
      return ([.expr e.expr], closed || e.form = .block || e.form = .bracedMacro)

/-- The statements of a block. -/
def parseStatements (g : Grammar) : Parse (List Part) := do
  let found ← collect do
    discard <| whileAt (Peek.punct ";") (punct ";")
    if ← atEnd then return none
    let (parts, complete) ← g.statement
    if !complete && !(← atEnd) then failure
    return some parts
  return found.flatten

/-! ## Tying the levels -/

/-- The grammar with one level more. -/
def next (g : Grammar) : Grammar :=
  { expr := g.parseExpr
    unary := g.parseUnary
    climb := g.parseOperators
    early := g.parseEarly []
    type := g.parseType
    path := g.parsePath
    pattern := g.parsePattern
    statements := g.parseStatements
    item := g.parseItem
    useTree := g.parseUseTree }

/-- The grammar with a number of levels. -/
def ofDepth : Nat → Grammar
  | 0 => exhausted
  | n + 1 => (ofDepth n).next

end Grammar

end ClassGraph.Rust
