import ClassGraph.Text.CodeSet

/-!
# Blank characters and trimming

Blank means the property `White_Space`. Trimming takes blanks off both ends.
-/

set_option autoImplicit false

namespace ClassGraph.Text

/-- Intervals of the blank characters. -/
def blankTable : List Nat :=
  [9, 13, 32, 32, 133, 133, 160, 160, 5760, 5760, 8192, 8202, 8232, 8233, 8239, 8239, 8287, 8287,
   12288, 12288]

/-- Is the character white space? -/
def isBlank (c : Char) : Bool :=
  inIntervals blankTable c.toNat

/-- The characters without the blanks at either end. -/
def trimChars (cs : List Char) : List Char :=
  ((cs.dropWhile isBlank).reverse.dropWhile isBlank).reverse

/-- The text without the blanks at either end. -/
def trim (s : String) : String :=
  String.ofList (trimChars s.toList)

end ClassGraph.Text
