/-!
# Cutting text into pieces

Splitting at a separator keeps empty pieces; it is done to characters and to bytes alike. A line ends
with a newline; a text that does not end with one has a last, unfinished line.
-/

set_option autoImplicit false

namespace ClassGraph.Text

/-- The pieces of `cs` between the occurrences of `sep`, empty ones included. -/
def splitAt {α : Type} [DecidableEq α] (sep : α) : List α → List (List α)
  | [] => [[]]
  | c :: rest =>
    if c = sep then [] :: splitAt sep rest
    else
      match splitAt sep rest with
      | [] => [[c]]
      | piece :: pieces => (c :: piece) :: pieces

/-- Every double colon, leftmost first, becomes one dot. -/
def colonsToDots : List Char → List Char
  | ':' :: ':' :: rest => '.' :: colonsToDots rest
  | c :: rest => c :: colonsToDots rest
  | [] => []

/-- What stands before the last `sep` and what stands after it. -/
def cutLast {α : Type} [DecidableEq α] (sep : α) (cs : List α) : Option (List α × List α) :=
  let back := cs.reverse
  match back.dropWhile (· ≠ sep) with
  | [] => none
  | _ :: front => some (front.reverse, (back.takeWhile (· ≠ sep)).reverse)

/-- The text with every `a` replaced by `b`. -/
def replaceChar (a b : Char) (s : String) : String :=
  String.ofList (s.toList.map fun c => if c = a then b else c)

/-- The text with every `a` replaced by the text `b`. -/
def replaceWith (a : Char) (b : String) (s : String) : String :=
  String.ofList (s.toList.flatMap fun c => if c = a then b.toList else [c])

/-- How many lines there are, where `opened` tells that an unfinished line has begun. -/
def countLinesFrom : Bool → List Char → Nat
  | opened, [] => if opened then 1 else 0
  | _, '\n' :: rest => countLinesFrom false rest + 1
  | _, _ :: rest => countLinesFrom true rest

/-- The number of lines of the text. -/
def countLines (s : String) : Nat :=
  countLinesFrom false s.toList

/-- The texts one after the other with `sep` between them. -/
def joinWith (sep : String) : List String → String
  | [] => ""
  | [s] => s
  | s :: rest => s ++ sep ++ joinWith sep rest

end ClassGraph.Text
