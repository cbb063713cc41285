import ClassGraph.Rust.Grammar.Type

/-!
# Patterns
-/

set_option autoImplicit false

namespace ClassGraph.Rust

open Parse

/-! ## Members -/

/-- The value of a digit. -/
def digitValue? (base : Nat) (c : Char) : Option Nat :=
  let n :=
    if c.isDigit then c.toNat - '0'.toNat
    else if 'a' ≤ c && c ≤ 'f' then c.toNat - 'a'.toNat + 10
    else if 'A' ≤ c && c ≤ 'F' then c.toNat - 'A'.toNat + 10
    else base
  if n < base then some n else none

/-- The number that digits and bars stand for; other characters are none. -/
def digitsValue? (base : Nat) (cs : List Char) : Option Nat :=
  cs.foldl
    (fun acc c =>
      match acc with
      | none => none
      | some n => if c = '_' then some n else (digitValue? base c).map fun d => n * base + d)
    (some 0)

/-- The place that an integer literal without a suffix stands for; it fits in 32 bits. -/
def place? (text : String) : Option Nat :=
  let value :=
    match text.toList with
    | '0' :: 'x' :: ds => digitsValue? 16 ds
    | '0' :: 'o' :: ds => digitsValue? 8 ds
    | '0' :: 'b' :: ds => digitsValue? 2 ds
    | ds => digitsValue? 10 ds
  value.filter fun n => decide (n < 4294967296)

/-- A member: its name, and whether it is a name and not a place. -/
def member : Parse (String × Bool) := fun ts =>
  match ts with
  | .literal .integer text _ :: rest => (place? text).map fun n => ((toString n, false), rest)
  | _ => (ident ts).map fun (name, rest) => ((name, true), rest)

namespace Grammar

/-! ## Alternatives -/

/-- Does another alternative follow? -/
def alternativeFollows (ts : List Tree) : Bool :=
  Peek.punct "|" ts && !Peek.punct "||" ts && !Peek.punct "|=" ts

/-- A pattern that may have alternatives, and perhaps a bar in front. -/
def alternatives (g : Grammar) : Parse PatternOperand := do
  let leading ← tryPunct "|"
  let first ← g.pattern
  if leading || (← sees alternativeFollows) then
    let more ← whileAt alternativeFollows do
      punct "|"
      g.pattern
    return ⟨.other ((first :: more).map fun p => .pattern p.pattern), .plain⟩
  else return first

/-- Several patterns as one. -/
def together (ps : List PatternOperand) : Pat := .other (ps.map fun p => .pattern p.pattern)

/-! ## Ranges -/

/-- May a range have no bound here? -/
def boundAbsent (ts : List Tree) : Bool :=
  ts.isEmpty || Peek.punct "|" ts || Peek.punct "=" ts || Peek.colon ts || Peek.punct "," ts
    || Peek.punct ";" ts || Peek.word "if" ts

/-- A bound of a range, as its parts. -/
def rangeBound (g : Grammar) : Parse (Option (List Part)) := do
  if ← sees boundAbsent then return none
  else if ← sees Peek.lit then
    lit
    return some []
  else if ← sees pathStarts then
    let (self, path) ← g.qualifiedPath true
    return some (self.getD [] ++ path.parts)
  else if ← tryWord "const" then return some (← g.attributedBraces)
  else failure

/-- The rest of a range after its lower bound. -/
def rangeEnd (g : Grammar) (start : List Part) : Parse PatternOperand := do
  let closed ← do
    if ← tryPunct "..=" then pure true
    else if ← tryPunct "..." then pure true
    else
      punct ".."
      pure false
  match ← g.rangeBound with
  | some parts => return ⟨.other (start ++ parts), .plain⟩
  | none => if closed then failure else return ⟨.other start, .openRange⟩

/-- A range without a lower bound, or two dots for what is left. -/
def rangeOrRest (g : Grammar) : Parse PatternOperand := do
  let closed ← do
    if ← tryPunct "..=" then pure true
    else
      punct ".."
      pure false
  match ← g.rangeBound with
  | some parts => return ⟨.other parts, .openRange⟩
  | none => if closed then failure else return ⟨.other [], .rest⟩

/-! ## Records -/

/-- A field in a record pattern. -/
def fieldPattern (g : Grammar) : Parse (List Part) := do
  let boxed ← tryWord "box"
  let borrowed ← tryWord "ref"
  let mutable ← tryWord "mut"
  if boxed || borrowed || mutable then
    discard ident
    return []
  else
    let (_, named) ← member
    if !named || (← sees (Peek.punct ":")) then
      punct ":"
      return [.pattern (← g.alternatives).pattern]
    else return []

/-- The fields in a record pattern; two dots end them. -/
def fieldPatterns (g : Grammar) : Nat → Parse (List Part)
  | 0 => failure
  | fuel + 1 => do
    if ← atEnd then return []
    let values ← g.attributes
    if ← tryPunct ".." then return values
    let field ← g.fieldPattern
    if ← atEnd then return values ++ field
    punct ","
    let more ← g.fieldPatterns fuel
    return values ++ field ++ more

/-! ## Patterns -/

/-- A pattern that starts with a path. -/
def pathPattern (g : Grammar) : Parse PatternOperand := do
  let (self, path) ← g.qualifiedPath true
  let parts := self.getD [] ++ path.parts
  if self.isNone && path.isBare && (← sees fun ts => Peek.punct "!" ts && !Peek.punct "!=" ts) then
    punct "!"
    let (args, _) ← g.macroBody
    return ⟨.other args, .plain⟩
  else if ← sees (Peek.group .brace) then
    let fields ← inside .brace fun ts => g.fieldPatterns (ts.length + 2) ts
    return ⟨.other (parts ++ fields), .plain⟩
  else if ← sees (Peek.group .paren) then
    let elements ← inside .paren (commas g.alternatives)
    return ⟨.other (parts ++ [.pattern (together elements)]), .plain⟩
  else if ← sees (Peek.punct "..") then g.rangeEnd parts
  else return ⟨.other parts, .plain⟩

/-- A name, perhaps with a pattern after it. -/
def namePattern (g : Grammar) : Parse PatternOperand := do
  discard <| tryWord "ref"
  discard <| tryWord "mut"
  let name ← if ← sees (Peek.word "self") then anyIdent else ident
  if ← tryPunct "@" then
    let p ← g.pattern
    return ⟨.ident name [.pattern p.pattern], .plain⟩
  else return ⟨.ident name [], .plain⟩

/-- A pattern in parentheses, or a tuple. -/
def parenthesizedPattern (g : Grammar) : Parse PatternOperand :=
  inside .paren do
    if ← atEnd then return ⟨.other [], .plain⟩
    let first ← g.alternatives
    if ← atEnd then
      return ⟨if first.form = .rest then together [first] else .paren first.pattern, .plain⟩
    punct ","
    let more ← commas g.alternatives
    return ⟨together (first :: more), .plain⟩

/-- Patterns in brackets; a range with one end needs parentheses there. -/
def slicePattern (g : Grammar) : Parse PatternOperand := do
  let elements ← inside .bracket (commas g.alternatives)
  if elements.any fun p => p.form = .openRange then failure
  return ⟨together elements, .plain⟩

/-- Does a pattern start with a path here, and not with a name of its own? -/
def pathPatternStarts (ts : List Tree) : Bool :=
  let next := ts.drop 1
  (Peek.ident ts
      && (Peek.punct "::" next || Peek.punct "!" next || Peek.group .brace next
        || Peek.group .paren next || Peek.punct ".." next))
    || (Peek.word "self" ts && Peek.punct "::" next)
    || Peek.punct "::" ts || Peek.punct "<" ts || Peek.wordOf ["Self", "super", "crate"] ts

/-- A pattern without alternatives. -/
def parsePattern (g : Grammar) : Parse PatternOperand := do
  if ← sees pathPatternStarts then g.pathPattern
  else if ← tryWord "_" then return ⟨.other [], .plain⟩
  else if ← tryWord "box" then
    discard g.pattern
    return ⟨.other [], .plain⟩
  else if ← sees fun ts => Peek.punct "-" ts || Peek.lit ts || Peek.word "const" ts then
    match ← g.rangeBound with
    | some start =>
      if ← sees (Peek.punct "..") then g.rangeEnd start else return ⟨.other start, .plain⟩
    | none => failure
  else if ← sees fun ts => Peek.wordOf ["ref", "mut", "self"] ts || Peek.ident ts then g.namePattern
  else if ← tryPunct "&" then
    discard <| tryWord "mut"
    let p ← g.pattern
    return ⟨.reference p.pattern, .plain⟩
  else if ← sees (Peek.group .paren) then g.parenthesizedPattern
  else if ← sees (Peek.group .bracket) then g.slicePattern
  else if ← sees fun ts => Peek.punct ".." ts && !Peek.punct "..." ts then g.rangeOrRest
  else failure

end Grammar

end ClassGraph.Rust
