import ClassGraph.Rust.Syntax
import ClassGraph.Rust.Token

/-!
# Reading syntax out of token trees

A reader takes trees from the front of a list, or fails. What stands in a group is read as a whole:
nothing may be left over in it.

Expressions, types, patterns and items are nested in each other without end, so a reader of one of
them takes the readers of all of them, for one level less, as a `Grammar`. The grammar of a text has
as many levels as the text could need.
-/

set_option autoImplicit false

namespace ClassGraph.Rust

/-- A reader of token trees. -/
abbrev Parse (α : Type) := StateT (List Tree) Option α

namespace Peek

/-! ## What stands at the front -/

/-- The names that cannot be used as such. -/
def keywords : List String :=
  ["_", "abstract", "as", "async", "await", "become", "box", "break", "const", "continue", "crate",
   "do", "dyn", "else", "enum", "extern", "false", "final", "fn", "for", "if", "impl", "in", "let",
   "loop", "macro", "match", "mod", "move", "mut", "override", "priv", "pub", "ref", "return", "Self",
   "self", "static", "struct", "super", "trait", "true", "try", "type", "typeof", "unsafe", "unsized",
   "use", "virtual", "where", "while", "yield"]

/-- A name that is no keyword. -/
def ident : List Tree → Bool
  | .ident name _ :: _ => !keywords.contains name.text
  | _ => false

/-- A name or a keyword. -/
def anyIdent : List Tree → Bool
  | .ident _ _ :: _ => true
  | _ => false

/-- A certain word. -/
def word (w : String) : List Tree → Bool
  | .ident name _ :: _ => name.text == w
  | _ => false

/-- One of some words. -/
def wordOf (ws : List String) : List Tree → Bool
  | .ident name _ :: _ => ws.contains name.text
  | _ => false

/-- Certain punctuation characters without blanks between them. -/
def chars : List Char → List Tree → Bool
  | [c], .punct d _ _ :: _ => c == d
  | c :: cs, .punct d joint _ :: rest => c == d && joint && chars cs rest
  | _, _ => false

/-- Certain punctuation. -/
def punct (p : String) (ts : List Tree) : Bool := chars p.toList ts

/-- One of some punctuations. -/
def punctOf (ps : List String) (ts : List Tree) : Bool := ps.any fun p => punct p ts

/-- A group with certain brackets. -/
def group (d : Delimiter) : List Tree → Bool
  | .group e _ _ _ :: _ => d == e
  | _ => false

/-- A lifetime. -/
def lifetime : List Tree → Bool
  | .lifetime _ :: _ => true
  | _ => false

/-- A literal: a number with a sign and the words for truth values are literals too. -/
def lit : List Tree → Bool
  | .literal _ _ _ :: _ => true
  | .ident name _ :: _ => name.text == "true" || name.text == "false"
  | .punct '-' _ _ :: .literal .integer _ _ :: _ => true
  | .punct '-' _ _ :: .literal .floating _ _ :: _ => true
  | _ => false

/-- An integer literal. -/
def integer : List Tree → Bool
  | .literal .integer _ _ :: _ => true
  | _ => false

/-- A string literal. -/
def text : List Tree → Bool
  | .literal .text _ _ :: _ => true
  | _ => false

/-- A dot that does not start a range. -/
def dot (ts : List Tree) : Bool := punct "." ts && !punct ".." ts

/-- A colon that does not start a path separator. -/
def colon (ts : List Tree) : Bool := punct ":" ts && !punct "::" ts

end Peek

namespace Parse

variable {α β : Type}

/-! ## Elementary readers -/

/-- Does the front satisfy a test? -/
def sees (test : List Tree → Bool) : Parse Bool := fun ts => some (test ts, ts)

/-- Does what is left after one tree satisfy a test? -/
def sees2 (test : List Tree → Bool) : Parse Bool := fun ts => some (test (ts.drop 1), ts)

/-- Does what is left after two trees satisfy a test? -/
def sees3 (test : List Tree → Bool) : Parse Bool := fun ts => some (test (ts.drop 2), ts)

/-- Is nothing left? -/
def atEnd : Parse Bool := fun ts => some (ts.isEmpty, ts)

/-- The line of the next tree. -/
def line : Parse Nat := fun ts =>
  match ts with
  | t :: _ => some (t.line, ts)
  | [] => none

/-- A certain word. -/
def word (w : String) : Parse Unit := fun ts =>
  match ts with
  | .ident name _ :: rest => if name.text == w then some ((), rest) else none
  | _ => none

/-- Takes a certain word if it is there. -/
def tryWord (w : String) : Parse Bool := fun ts =>
  if Peek.word w ts then some (true, ts.drop 1) else some (false, ts)

/-- Certain punctuation. -/
def punct (p : String) : Parse Unit := fun ts =>
  if Peek.punct p ts then some ((), ts.drop p.length) else none

/-- Takes certain punctuation if it is there. -/
def tryPunct (p : String) : Parse Bool := fun ts =>
  if Peek.punct p ts then some (true, ts.drop p.length) else some (false, ts)

/-- A name that is no keyword. -/
def ident : Parse String := fun ts =>
  match ts with
  | .ident name _ :: rest => if Peek.keywords.contains name.text then none else some (name.text, rest)
  | _ => none

/-- A name or a keyword. -/
def anyIdent : Parse String := fun ts =>
  match ts with
  | .ident name _ :: rest => some (name.text, rest)
  | _ => none

/-- A lifetime. -/
def lifetime : Parse Unit := fun ts =>
  match ts with
  | .lifetime _ :: rest => some ((), rest)
  | _ => none

/-- Takes a lifetime if it is there. -/
def tryLifetime : Parse Bool := fun ts =>
  match ts with
  | .lifetime _ :: rest => some (true, rest)
  | _ => some (false, ts)

/-- A literal. -/
def lit : Parse Unit := fun ts =>
  if Peek.lit ts then
    match ts with
    | .punct _ _ _ :: _ :: rest => some ((), rest)
    | _ :: rest => some ((), rest)
    | [] => none
  else none

/-- What a group with certain brackets holds, read to its end. -/
def inside (d : Delimiter) (p : Parse α) : Parse α := fun ts =>
  match ts with
  | .group e body _ _ :: rest =>
    if d = e then
      match p body with
      | some (a, []) => some (a, rest)
      | _ => none
    else none
  | _ => none

/-- The trees of the next group, whatever its brackets, and whether these are braces. -/
def anyGroup : Parse (List Tree × Bool) := fun ts =>
  match ts with
  | .group d body _ _ :: rest => some ((body, d == .brace), rest)
  | _ => none

/-- Everything that is left. -/
def everything : Parse Unit := fun _ => some ((), [])

/-- Reads if it can, and takes nothing if it cannot. -/
def optionally (p : Parse α) : Parse (Option α) := fun ts =>
  match p ts with
  | some (a, rest) => some (some a, rest)
  | none => some (none, ts)

/-- Reads without taking anything. -/
def lookingAhead (p : Parse α) : Parse α := fun ts => (p ts).map fun (a, _) => (a, ts)

/-- Repeats a step until it gives nothing. -/
def collectUpTo (step : Parse (Option α)) : Nat → List α → Parse (List α)
  | 0, _ => failure
  | fuel + 1, acc => do
    match ← step with
    | none => pure acc.reverse
    | some a => collectUpTo step fuel (a :: acc)

/-- All that a step gives until it gives nothing; a step that gives something takes a tree. -/
def collect (step : Parse (Option α)) : Parse (List α) := fun ts =>
  collectUpTo step (ts.length + 2) [] ts

/-- Reads as long as a test holds of the front. -/
def whileAt (test : List Tree → Bool) (p : Parse α) : Parse (List α) :=
  collect do
    if ← sees test then return some (← p) else return none

/-- Reads until nothing is left. -/
def untilEnd (p : Parse α) : Parse (List α) :=
  collect do
    if ← atEnd then return none else return some (← p)

/-- Reads until nothing is left, with commas between, and perhaps one at the end. -/
def commas (p : Parse α) : Parse (List α) :=
  collect do
    if ← atEnd then return none
    else
      let a ← p
      if !(← atEnd) then punct ","
      return some a

/-- Reads until a test holds of the front, with `sep` between, and perhaps one at the end. -/
def separatedUntil (stop : List Tree → Bool) (sep : String) (p : Parse α) : Parse (List α) :=
  collect do
    if ← sees stop then return none
    else
      let a ← p
      if !(← sees stop) then punct sep
      return some a

/-- Reads with `sep` between until a test holds of the front or no `sep` follows. -/
def separatedWhile (stop : List Tree → Bool) (sep : String) (p : Parse α) : Parse (List α) :=
  fun ts =>
    let step : Parse (Option (α × Bool)) := do
      if ← sees stop then return none
      else
        let a ← p
        return some (a, ← tryPunct sep)
    -- The elements up to the first one that no separator follows.
    let rec go : Nat → List α → Parse (List α)
      | 0, _ => failure
      | fuel + 1, acc => do
        match ← step with
        | none => pure acc.reverse
        | some (a, true) => go fuel (a :: acc)
        | some (a, false) => pure (a :: acc).reverse
    go (ts.length + 2) [] ts

end Parse

/-! ## The grammar of one level -/

/-- What matters of an expression for what may follow it. -/
inductive Form where
  | plain
  /-- A range, which takes no operator after it. -/
  | range
  /-- A comparison, which takes no other comparison after it. -/
  | comparison
  /-- An expression that ends a statement without a semicolon. -/
  | block
  /-- A macro call with braces. -/
  | bracedMacro
deriving DecidableEq

/-- An expression and its form. -/
structure Operand where
  expr : Expr
  form : Form

instance : Inhabited Operand := ⟨⟨default, .plain⟩⟩

/-- What matters of a type for what may follow it. -/
inductive TypeForm where
  /-- A single name, perhaps with arguments in angle brackets. -/
  | name
  /-- Another path. -/
  | path
  /-- A single trait without `dyn`. -/
  | bareTrait
  | other
deriving DecidableEq

/-- A type and its form. -/
structure TypeOperand where
  type : Ty
  form : TypeForm

instance : Inhabited TypeOperand := ⟨⟨default, .other⟩⟩

/-- What matters of a pattern for where it may stand. -/
inductive PatternForm where
  | plain
  /-- Two dots for what is left. -/
  | rest
  /-- A range with only one end. -/
  | openRange
deriving DecidableEq

/-- A pattern and its form. -/
structure PatternOperand where
  pattern : Pat
  form : PatternForm

instance : Inhabited PatternOperand := ⟨⟨default, .plain⟩⟩

/-- A segment of a path, with its arguments in angle brackets if there are any. -/
structure Segment where
  name : String
  args : Option (List Arg)

/-- A path; a rooted one starts with a separator. -/
structure Path where
  rooted : Bool
  segments : List Segment

instance : Inhabited Path := ⟨⟨false, []⟩⟩

/-- How tightly an operator binds. -/
inductive Precedence where
  | jump
  | assign
  | range
  | or
  | and
  | letCondition
  | compare
  | bitOr
  | bitXor
  | bitAnd
  | shift
  | sum
  | product
  | cast
deriving DecidableEq

/-- The place in the order of tightness. -/
def Precedence.rank : Precedence → Nat
  | .jump => 0
  | .assign => 1
  | .range => 2
  | .or => 3
  | .and => 4
  | .letCondition => 5
  | .compare => 6
  | .bitOr => 7
  | .bitXor => 8
  | .bitAnd => 9
  | .shift => 10
  | .sum => 11
  | .product => 12
  | .cast => 13

/-- The readers of the constructs that are nested in each other. -/
structure Grammar where
  /-- An expression, which may hold a record literal or not. -/
  expr : Bool → Parse Operand
  /-- An operand of a binary operator. -/
  unary : Bool → Parse Operand
  /-- The operators that follow an operand and bind at least as tightly as a given one. -/
  climb : Operand → Bool → Precedence → Parse Operand
  /-- An expression at the start of a statement, where a block ends it. -/
  early : Parse Operand
  /-- A type, which may be a sum of bounds or not. -/
  type : Bool → Parse TypeOperand
  /-- A path, in the style of expressions or of types. -/
  path : Bool → Parse Path
  /-- A pattern without alternatives. -/
  pattern : Parse PatternOperand
  /-- The statements of a block. -/
  statements : Parse (List Part)
  item : Parse Item
  /-- The rest of an import, at its start or further inside. -/
  useTree : Bool → Parse Unit

/-- The grammar without a level left: nothing can be read. -/
def Grammar.exhausted : Grammar :=
  { expr := fun _ => failure
    unary := fun _ => failure
    climb := fun _ _ _ => failure
    early := failure
    type := fun _ => failure
    path := fun _ => failure
    pattern := failure
    statements := failure
    item := failure
    useTree := fun _ => failure }

end ClassGraph.Rust
