import ClassGraph.Text.Alphabet

/-!
# Token trees of Rust

Source text is a sequence of token trees: names, punctuation characters, literals, lifetimes, and
groups between matching brackets. Every tree knows the line it starts on; a group also knows the
line of its closing bracket.
-/

set_option autoImplicit false

namespace ClassGraph.Rust

/-- A pair of brackets. -/
inductive Delimiter where
  | paren
  | bracket
  | brace
deriving DecidableEq, Repr

/-- The kinds of literals that the grammar tells apart. -/
inductive LiteralKind where
  | integer
  | floating
  | text
  | other
deriving DecidableEq, Repr

/-- May the character stand in a name? A raw name has a number sign behind its `r`. -/
def isNameChar (c : Char) : Bool := c = '#' || Text.isIdentRest c

/-- A name as it is written. -/
structure Name where
  text : String
  isName : text.toList.all isNameChar = true

/-- A token tree. A punctuation character is joint when another one follows without a blank. -/
inductive Tree where
  | ident (name : Name) (line : Nat)
  | punct (char : Char) (joint : Bool) (line : Nat)
  | literal (kind : LiteralKind) (text : String) (line : Nat)
  | lifetime (line : Nat)
  | group (delimiter : Delimiter) (body : List Tree) (line endLine : Nat)

/-- The line a tree starts on. -/
def Tree.line : Tree → Nat
  | .ident _ line => line
  | .punct _ _ line => line
  | .literal _ _ line => line
  | .lifetime line => line
  | .group _ _ line _ => line

/-- The line a tree ends on, for trees that may end an item. -/
def Tree.endLine : Tree → Nat
  | .group _ _ _ line => line
  | t => t.line

mutual

/-- How many trees there are in a tree, itself included. -/
def Tree.size : Tree → Nat
  | .group _ body _ _ => sizeAll body + 1
  | _ => 1

/-- How many trees there are in some trees. -/
def sizeAll : List Tree → Nat
  | [] => 0
  | t :: ts => t.size + sizeAll ts

end

end ClassGraph.Rust
