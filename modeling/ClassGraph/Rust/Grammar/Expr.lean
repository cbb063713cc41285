import ClassGraph.Rust.Grammar.Pattern

/-!
# Expressions

An expression is read in three layers: an atom with what follows it (calls, members, indices), the
unary operators in front of it, and the binary operators, which are climbed by their precedence.
-/

set_option autoImplicit false

namespace ClassGraph.Rust

open Parse

/-- An expression without a form of its own. -/
def Expr.plain (e : Expr) : Operand := ⟨e, .plain⟩

namespace Grammar

/-! ## Operators -/

/-- The binary operators, the longer ones first. -/
def operators : List (String × Precedence) :=
  [("+=", .assign), ("-=", .assign), ("*=", .assign), ("/=", .assign), ("%=", .assign),
   ("^=", .assign), ("&=", .assign), ("|=", .assign), ("<<=", .assign), (">>=", .assign),
   ("&&", .and), ("||", .or), ("<<", .shift), (">>", .shift),
   ("==", .compare), ("<=", .compare), ("!=", .compare), (">=", .compare),
   ("+", .sum), ("-", .sum), ("*", .product), ("/", .product), ("%", .product),
   ("^", .bitXor), ("&", .bitAnd), ("|", .bitOr), ("<", .compare), (">", .compare)]

/-- The binary operator at the front. -/
def operator? (ts : List Tree) : Option (String × Precedence) :=
  operators.find? fun (op, _) => Peek.punct op ts

/-- An assignment, and not the arrow of a match. -/
def isAssignment (ts : List Tree) : Bool := Peek.punct "=" ts && !Peek.punct "=>" ts

/-- How tightly the operator at the front binds. -/
def nextPrecedence (ts : List Tree) : Precedence :=
  match operator? ts with
  | some (_, p) => p
  | none =>
    if isAssignment ts then .assign
    else if Peek.punct ".." ts then .range
    else if Peek.word "as" ts then .cast
    else .jump

/-- The operators after the right operand of an operator that bind more tightly than it; an
assignment also takes assignments. -/
def tighter (g : Grammar) (structs : Bool) (p : Precedence) : Nat → Operand → Parse Operand
  | 0, _ => failure
  | fuel + 1, e => fun ts =>
    let next := nextPrecedence ts
    if p.rank < next.rank || (next = p && p = .assign) then
      match g.climb e structs next ts with
      | none => none
      | some (e', rest) =>
        if rest.length = ts.length then some (e', rest) else g.tighter structs p fuel e' rest
    else some (e, ts)

/-- The right operand of an operator. -/
def rightOperand (g : Grammar) (structs : Bool) (p : Precedence) : Parse Operand := do
  let e ← g.unary structs
  fun ts => g.tighter structs p (ts.length + 2) e ts

/-- May a half-open range end here? -/
def rangeMayEnd (structs : Bool) (ts : List Tree) : Bool :=
  ts.isEmpty || Peek.dot ts || Peek.word "as" ts || (!structs && Peek.group .brace ts)
    || Peek.punctOf [",", ";", "?", "=>", "=", "+", "/", "%", "^", ">", "<=", "!=", "-=", "*=", "&=",
      "|=", "<<="] ts

/-- The dots of a range and what follows them. -/
def rangeTail (g : Grammar) (structs : Bool) : Parse (List Part) := do
  if ← tryPunct "..=" then return [.expr (← g.rightOperand structs .range).expr]
  else if ← sees (Peek.punct "...") then failure
  else
    punct ".."
    if ← sees (rangeMayEnd structs) then return []
    else return [.expr (← g.rightOperand structs .range).expr]

/-- What may not follow a cast without parentheses around it. -/
def castContinues (ts : List Tree) : Bool :=
  Peek.dot ts || Peek.punct "?" ts || Peek.group .bracket ts || Peek.group .paren ts

/-- The binary operators that follow an operand and bind at least as tightly as `base`. -/
def parseOperators (g : Grammar) (e : Operand) (structs : Bool) (base : Precedence) :
    Parse Operand := do
  if e.form = .range then return e
  match operator? (← get) with
  | some (op, p) =>
    if p.rank < base.rank then return e
    if p = .compare && e.form = .comparison then failure
    punct op
    let right ← g.rightOperand structs p
    g.climb ⟨.other [.expr e.expr, .expr right.expr], if p = .compare then .comparison else .plain⟩
      structs base
  | none =>
    if base.rank ≤ Precedence.assign.rank && (← sees isAssignment) then
      punct "="
      let right ← g.rightOperand structs .assign
      g.climb (Expr.plain (.other [.expr e.expr, .expr right.expr])) structs base
    else if base.rank ≤ Precedence.range.rank && (← sees (Peek.punct "..")) then
      let tail ← g.rangeTail structs
      return ⟨.other (.expr e.expr :: tail), .range⟩
    else if ← sees (Peek.word "as") then
      word "as"
      let t ← g.type false
      if ← sees castContinues then failure
      g.climb (Expr.plain (.cast e.expr t.type)) structs base
    else return e

/-! ## What follows an atom -/

/-- The members that a number with dots stands for, as in `pair.0.1`. -/
def memberChain (base : Expr) : List (List Char) → Option Expr
  | [] => some base
  | digits :: more =>
    match place? (String.ofList digits) with
    | none => none
    | some n => memberChain (.field base (toString n)) more

/-- Splits at dots. -/
def splitDots (cs : List Char) : List (List Char) :=
  cs.foldr
    (fun c acc =>
      match acc with
      | part :: parts => if c = '.' then [] :: part :: parts else (c :: part) :: parts
      | [] => [[c]])
    [[]]

/-- A number with dots as members, and whether a dot is left at its end. -/
def numberedMembers (base : Expr) : Parse (Option (Expr × Bool)) := fun ts =>
  match ts with
  | .literal .floating text _ :: rest =>
    let chars := text.toList
    let trailing := chars.getLast? == some '.'
    let chars := if trailing then chars.dropLast else chars
    (memberChain base (splitDots chars)).map fun e => (some (e, trailing), rest)
  | _ => some (none, ts)

/-- Arguments of a call. -/
def callArgs (g : Grammar) : Parse (List Part) := do
  let args ← inside .paren (commas (g.expr true))
  return args.map fun a => .expr a.expr

/-- What stands after a dot: a member, a method call, or a wait. -/
def afterDot (g : Grammar) (base : Expr) : Parse Expr := do
  if ← tryWord "await" then return .other [.expr base]
  else
    let (name, named) ← member
    let generics ← do
      if named && (← sees (Peek.punct "::")) then pure (some (← g.angled)) else pure none
    if named && (generics.isSome || (← sees (Peek.group .paren))) then
      let args ← g.callArgs
      return .methodCall base name ((generics.getD []).flatMap Arg.parts) args
    else return .field base name

/-- Calls, members, indices and question marks after an expression. -/
def trailers (g : Grammar) : Nat → Operand → Parse Operand
  | 0, _ => failure
  | fuel + 1, e => do
    if ← sees (Peek.group .paren) then
      let args ← g.callArgs
      g.trailers fuel (Expr.plain (.call e.expr args))
    else if e.form ≠ .range && (← sees Peek.dot) then
      punct "."
      match ← numberedMembers e.expr with
      | some (base, false) => g.trailers fuel (Expr.plain base)
      | some (base, true) => g.trailers fuel (Expr.plain (← g.afterDot base))
      | none => g.trailers fuel (Expr.plain (← g.afterDot e.expr))
    else if ← sees (Peek.group .bracket) then
      let index ← inside .bracket (g.expr true)
      g.trailers fuel (Expr.plain (.other [.expr e.expr, .expr index.expr]))
    else if e.form ≠ .range && (← sees (Peek.punct "?")) then
      punct "?"
      g.trailers fuel (Expr.plain (.attempt e.expr))
    else return e

/-- What follows an expression. -/
def trailing (g : Grammar) (e : Operand) : Parse Operand := fun ts => g.trailers (ts.length + 2) e ts

/-! ## Atoms -/

/-- May an expression start here? -/
def exprStarts (ts : List Tree) : Bool :=
  (Peek.anyIdent ts && !Peek.word "as" ts)
    || Peek.group .paren ts || Peek.group .bracket ts || Peek.group .brace ts || Peek.lit ts
    || (Peek.punct "!" ts && !Peek.punct "!=" ts)
    || (Peek.punct "-" ts && !Peek.punct "-=" ts && !Peek.punct "->" ts)
    || (Peek.punct "*" ts && !Peek.punct "*=" ts)
    || (Peek.punct "|" ts && !Peek.punct "|=" ts)
    || (Peek.punct "&" ts && !Peek.punct "&=" ts)
    || Peek.punct ".." ts
    || (Peek.punct "<" ts && !Peek.punct "<=" ts && !Peek.punct "<<=" ts)
    || Peek.punct "::" ts || Peek.lifetime ts || Peek.punct "#" ts

/-- A field in a record literal. -/
def fieldValue (g : Grammar) : Parse (List Part) := do
  let values ← g.attributes
  let (name, named) ← member
  if !named || (← sees (Peek.punct ":")) then
    punct ":"
    return values ++ [.expr (← g.expr true).expr]
  else return values ++ [.expr (.path [name] true [])]

/-- The fields of a record literal; dots end them. -/
def fieldValues (g : Grammar) : Nat → Parse (List Part)
  | 0 => failure
  | fuel + 1 => do
    if ← atEnd then return []
    if ← tryPunct ".." then
      if ← atEnd then return [] else return [.expr (← g.expr true).expr]
    let field ← g.fieldValue
    if ← atEnd then return field
    punct ","
    let more ← g.fieldValues fuel
    return field ++ more

/-- A path, a macro call or a record literal. -/
def pathExpr (g : Grammar) (structs : Bool) : Parse Operand := do
  let (self, path) ← g.qualifiedPath true
  let parts := self.getD [] ++ path.parts
  if self.isNone && path.isBare && (← sees fun ts => Peek.punct "!" ts && !Peek.punct "!=" ts) then
    punct "!"
    let (args, braced) ← g.macroBody
    return ⟨.other args, if braced then .bracedMacro else .plain⟩
  else if structs && (← sees (Peek.group .brace)) then
    let fields ← inside .brace fun ts => g.fieldValues (ts.length + 2) ts
    return Expr.plain (.record path.lastName (parts ++ fields))
  else
    let plain := self.isNone && path.isSingle && path.isBare
    return Expr.plain (.path (path.segments.map (·.name)) plain parts)

/-- An expression in parentheses, or a tuple. -/
def parenthesizedExpr (g : Grammar) : Parse Operand :=
  inside .paren do
    if ← atEnd then return Expr.plain (.other [])
    let first ← g.expr true
    if ← atEnd then return Expr.plain (.paren first.expr)
    punct ","
    let more ← commas (g.expr true)
    return Expr.plain (.other ((first :: more).map fun e => .expr e.expr))

/-- A list, or an element and how often it is repeated. -/
def arrayExpr (g : Grammar) : Parse Operand :=
  inside .bracket do
    if ← atEnd then return Expr.plain (.other [])
    let first ← g.expr true
    if ← tryPunct ";" then
      let count ← g.expr true
      return Expr.plain (.other [.expr first.expr, .expr count.expr])
    if !(← atEnd) then punct ","
    let more ← commas (g.expr true)
    return Expr.plain (.other ((first :: more).map fun e => .expr e.expr))

/-- A parameter of a closure. -/
def closureParam (g : Grammar) : Parse Pat := do
  let values ← g.attributes
  let p ← g.pattern
  if ← tryPunct ":" then
    let t ← g.type true
    return .typed (p.pattern.attach values) t.type
  else return p.pattern.attach values

/-- A closure. -/
def closure (g : Grammar) (structs : Bool) : Parse Operand := do
  let before ← g.maybeBoundLifetimes
  discard <| tryWord "const"
  discard <| tryWord "static"
  discard <| tryWord "async"
  discard <| tryWord "move"
  punct "|"
  let params ← separatedUntil (Peek.punct "|") "," g.closureParam
  punct "|"
  if ← tryPunct "->" then
    let t ← g.type true
    let body ← g.braces
    return Expr.plain (.closure before params [.type t.type] (.block body))
  else
    let body ← g.expr structs
    return Expr.plain (.closure before params [] body.expr)

/-- Does a closure start here? -/
def closureStarts (ts : List Tree) : Bool :=
  let next := ts.drop 1
  Peek.punct "|" ts || Peek.word "move" ts
    || (Peek.word "for" ts && Peek.punct "<" next
      && (Peek.lifetime (ts.drop 2) || Peek.punct ">" (ts.drop 2)))
    || (Peek.word "const" ts && !Peek.group .brace next)
    || Peek.word "static" ts
    || (Peek.word "async" ts && (Peek.punct "|" next || Peek.word "move" next))

/-- The branches of a condition. -/
def branches (g : Grammar) : Nat → Parse (List Part)
  | 0 => failure
  | fuel + 1 => do
    word "if"
    let condition ← g.expr false
    let body ← g.braces
    let first := [.expr condition.expr, .expr (.block body)]
    if ← tryWord "else" then
      if ← sees (Peek.word "if") then return first ++ (← g.branches fuel)
      else return first ++ [.expr (.block (← g.braces))]
    else return first

/-- An arm of a match. -/
def arm (g : Grammar) : Parse (List Part) := do
  let values ← g.attributes
  let p ← g.alternatives
  let guard ← if ← tryWord "if" then pure [Part.expr (← g.expr true).expr] else pure []
  punct "=>"
  let body ← g.early
  if body.form ≠ .block && !(← atEnd) then punct "," else discard <| tryPunct ","
  return values ++ .pattern p.pattern :: guard ++ [.expr body.expr]

/-- A match. -/
def matchExpr (g : Grammar) : Parse Operand := do
  word "match"
  let subject ← g.expr false
  let (values, arms) ← inside .brace do
    let values ← g.innerAttributes
    return (values, ← untilEnd g.arm)
  return ⟨.other (values ++ .expr subject.expr :: arms.flatten), .block⟩

/-- A block that ends a statement. -/
def blockOperand (parts : List Part) : Operand := ⟨.other parts, .block⟩

/-- A loop or a block, with or without a label in front. -/
def loopOrBlock (g : Grammar) : Parse Operand := do
  if ← tryWord "while" then
    let condition ← g.expr false
    let (values, body) ← inside .brace do return (← g.innerAttributes, ← g.statements)
    return blockOperand (values ++ [.expr condition.expr, .expr (.block body)])
  else if ← tryWord "for" then
    let p ← g.alternatives
    word "in"
    let iterated ← g.expr false
    let body ← inside .brace do
      discard g.innerAttributes
      g.statements
    return ⟨.forLoop p.pattern iterated.expr body, .block⟩
  else if ← tryWord "loop" then return blockOperand [.expr (.block (← g.attributedBraces))]
  else return ⟨.block (← g.attributedBraces), .block⟩

/-- A loop or a block with a label. -/
def labeled (g : Grammar) : Parse Operand := do
  lifetime
  punct ":"
  g.loopOrBlock

/-- Does a block start here that ends a statement? -/
def blockStarts (ts : List Tree) : Bool :=
  let next := ts.drop 1
  Peek.wordOf ["if", "while", "loop", "match", "unsafe"] ts
    || (Peek.word "for" ts
      && !(Peek.punct "<" next && (Peek.lifetime (ts.drop 2) || Peek.punct ">" (ts.drop 2))))
    || (Peek.word "try" ts && Peek.group .brace next)
    || (Peek.word "const" ts && Peek.group .brace next)
    || Peek.group .brace ts || Peek.lifetime ts

/-- A block that ends a statement. -/
def blockLike (g : Grammar) : Parse Operand := do
  if ← sees (Peek.word "if") then
    let parts ← fun ts => g.branches (ts.length + 1) ts
    return blockOperand parts
  else if ← sees (Peek.word "match") then g.matchExpr
  else if ← tryWord "try" then return blockOperand [.expr (.block (← g.braces))]
  else if ← sees (Peek.wordOf ["unsafe", "const"]) then
    discard anyIdent
    return blockOperand [.expr (.block (← g.attributedBraces))]
  else if ← sees Peek.lifetime then g.labeled
  else g.loopOrBlock

/-- The value after a jump, if there is one. -/
def jumpValue (g : Grammar) (structs : Bool) : Parse (List Part) := do
  if (← sees exprStarts) && (structs || !(← sees (Peek.group .brace))) then
    return [.expr (← g.expr true).expr]
  else return []

/-- A jump. -/
def jump (g : Grammar) (structs : Bool) : Parse Operand := do
  if ← tryWord "break" then
    let label ← tryLifetime
    if label && (← sees (Peek.punct ":")) then failure
    return Expr.plain (.other (← g.jumpValue structs))
  else if ← tryWord "continue" then
    discard tryLifetime
    return Expr.plain (.other [])
  else if ← tryWord "become" then
    discard <| g.expr true
    return Expr.plain (.other [])
  else
    discard anyIdent
    return Expr.plain (.other (← g.jumpValue true))

/-- An operand without operators and without anything after it. -/
def atom (g : Grammar) (structs : Bool) : Parse Operand := do
  if ← sees Peek.lit then
    lit
    return Expr.plain (.other [])
  else if ← sees fun ts => Peek.word "async" ts
      && (Peek.group .brace (ts.drop 1)
        || (Peek.word "move" (ts.drop 1) && Peek.group .brace (ts.drop 2))) then
    word "async"
    discard <| tryWord "move"
    return Expr.plain (.other [.expr (.block (← g.braces))])
  else if ← sees fun ts => Peek.word "try" ts && Peek.group .brace (ts.drop 1) then g.blockLike
  else if ← sees closureStarts then g.closure structs
  else if ← sees fun ts => Peek.word "builtin" ts && Peek.punct "#" (ts.drop 1) then
    discard anyIdent
    punct "#"
    discard ident
    inside .paren everything
    return Expr.plain (.other [])
  else if ← sees fun ts => pathStarts ts
      || (Peek.word "try" ts && (Peek.punct "!" (ts.drop 1) || Peek.punct "::" (ts.drop 1))) then
    g.pathExpr structs
  else if ← sees (Peek.group .paren) then g.parenthesizedExpr
  else if ← sees (Peek.wordOf ["break", "continue", "return", "become", "yield"]) then g.jump structs
  else if ← sees (Peek.group .bracket) then g.arrayExpr
  else if ← tryWord "let" then
    let p ← g.alternatives
    punct "="
    let first ← g.unary structs
    let e ← g.climb first structs .compare
    return Expr.plain (.other [.pattern p.pattern, .expr e.expr])
  else if ← sees blockStarts then g.blockLike
  else if ← sees (Peek.punct "..") then return ⟨.other (← g.rangeTail structs), .range⟩
  else if ← tryWord "_" then return Expr.plain (.other [])
  else failure

/-! ## The layers -/

/-- Puts the values of attributes into an operand. -/
def attach (values : List Part) (e : Operand) : Operand :=
  if values.isEmpty then e else { e with expr := e.expr.attach values }

/-- An operand with the unary operators in front of it. -/
def parseUnary (g : Grammar) (structs : Bool) : Parse Operand := do
  let attributed ← sees (Peek.punct "#")
  let values ← g.attributes
  if ← tryPunct "&" then
    let raw ← sees fun ts => Peek.word "raw" ts && Peek.wordOf ["mut", "const"] (ts.drop 1)
    if raw then
      discard anyIdent
      discard anyIdent
    else discard <| tryWord "mut"
    let e ← g.unary structs
    let borrowed := if raw then Expr.other [.expr e.expr] else .reference e.expr
    return attach values (Expr.plain borrowed)
  else if ← tryPunct "*" then
    let e ← g.unary structs
    return attach values (Expr.plain (.deref e.expr))
  else if ← sees (Peek.punctOf ["!", "-"]) then
    if !(← tryPunct "!") then punct "-"
    let e ← g.unary structs
    return attach values (Expr.plain (.other [.expr e.expr]))
  else
    let e ← g.trailing (← g.atom structs)
    if attributed && e.form = .range then failure
    return attach values e

/-- An expression. -/
def parseExpr (g : Grammar) (structs : Bool) : Parse Operand := do
  let e ← g.unary structs
  g.climb e structs .jump

/-- An expression where a statement or the body of an arm starts, after attributes with the given
values: a block ends it, unless a member or a question mark follows. -/
def parseEarly (g : Grammar) (values : List Part) : Parse Operand := do
  let values := values ++ (← g.attributes)
  if ← sees blockStarts then
    let e ← g.blockLike
    if (← sees Peek.dot) || (← sees (Peek.punct "?")) then
      let e ← g.trailing e
      g.climb (attach values e) true .jump
    else return attach values e
  else
    let e ← g.unary true
    g.climb (attach values e) true .jump

end Grammar

end ClassGraph.Rust
