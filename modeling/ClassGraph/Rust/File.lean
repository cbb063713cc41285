import ClassGraph.Rust.Grammar.Item
import ClassGraph.Rust.Lexer

/-!
# Files and types as text
-/

set_option autoImplicit false

namespace ClassGraph.Rust

/-- The number of levels that are enough for some trees: no construct takes more than a few levels
for a tree. -/
def levelsFor (ts : List Tree) : Nat := 8 * sizeAll ts + 64

/-- Reads all of a text. -/
def readAll? {α : Type} (p : Grammar → Parse α) (cs : List Char) : Option α :=
  match Lexer.trees? cs with
  | none => none
  | some ts =>
    match p (Grammar.ofDepth (levelsFor ts)) ts with
    | some (a, []) => some a
    | _ => none

/-- Drops the blanks and comments at the start of a text. -/
def skipBlanks : Nat → List Char → List Char
  | 0, cs => cs
  | fuel + 1, cs =>
    match Lexer.skipLength? cs with
    | some n => skipBlanks fuel (cs.drop n)
    | none => cs

/-- Drops a first line that names an interpreter. It starts like an attribute, but no bracket
follows. -/
def dropInterpreter (cs : List Char) : List Char :=
  match cs with
  | '#' :: '!' :: rest =>
    match skipBlanks rest.length rest with
    | '[' :: _ => cs
    | _ => cs.dropWhile (· ≠ '\n')
  | _ => cs

/-- The items of a file. -/
def items (g : Grammar) : Parse (List Item) := do
  discard g.innerAttributes
  Parse.untilEnd g.item

/-- The items of a file, if its text can be read. -/
def parseFile? (text : String) : Option (List Item) :=
  let cs := text.toList
  let cs :=
    match cs with
    | c :: rest => if c.toNat = 0xFEFF then rest else cs
    | [] => []
  readAll? items (dropInterpreter cs)

/-- A text as a type, if it can be read as one. -/
def parseType? (text : String) : Option Ty :=
  (readAll? (fun g => g.type true) text.toList).map (·.type)

end ClassGraph.Rust
